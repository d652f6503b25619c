import AiPlatform.DeploymentDiscipline

/-!
The deployment services follow their discipline. `Bare` describes the session of
a request that has not touched a deployment or an allocation, `Handling` that of
a request that works on one deployment, with others still waiting for it. One
lemma for each function says what it makes of them.
-/

namespace AiPlatform.Deployments

open Session

def duty : Protocol deploymentSignature Session := ⟨Permits, Replied, Session.after⟩

def Follows {α : Type} (program : DeploymentProgram α) (session : Session)
    (post : α → Session → Prop) : Prop :=
  (duty.keeping Distinct).Follows program session post

section Rules

variable {α β : Type} {session : Session} {program : DeploymentProgram α} {value : α}

theorem follows_bind {rest : α → DeploymentProgram β} {middle : α → Session → Prop}
    {post : β → Session → Prop} (first : Follows program session middle)
    (second : ∀ value final, middle value final → Follows (rest value) final post) :
    Follows (program >>= rest) session post :=
  Protocol.follows_bind _ first second

theorem follows_mono {post post' : α → Session → Prop} (follows : Follows program session post)
    (weaker : ∀ value final, post value final → post' value final) :
    Follows program session post' :=
  Protocol.follows_mono _ follows weaker

theorem follows_perform {op : Op} {rest : Reply op → DeploymentProgram β}
    {post : β → Session → Prop} (permitted : session.Permits op)
    (next : ∀ reply, Replied session op reply → (session.after op reply).Distinct →
      Follows (rest reply) (session.after op reply) post) :
    Follows (Program.perform op Program.done >>= rest) session post :=
  ⟨permitted, fun reply replied => next reply replied.1 replied.2⟩

theorem follows_last {op : Op} {post : Reply op → Session → Prop}
    (permitted : session.Permits op)
    (next : ∀ reply, Replied session op reply → (session.after op reply).Distinct →
      post reply (session.after op reply)) :
    Follows (Program.perform op Program.done) session post :=
  ⟨permitted, fun reply replied => next reply replied.1 replied.2⟩

theorem follows_raise {failure : Failure} {rest : α → DeploymentProgram β}
    {post : β → Session → Prop} : Follows (raise failure >>= rest) session post :=
  ⟨trivial, fun nothing => nomatch nothing⟩

theorem follows_raised {failure : Failure} {post : α → Session → Prop} :
    Follows (raise failure) session post :=
  ⟨trivial, fun nothing => nomatch nothing⟩

end Rules

structure Idle (request : Request) (session : Session) : Prop where
  request : session.request = request
  deployments : ∀ tracked ∈ session.deployments, tracked.assigned = []
  allocations : ∀ tracked ∈ session.allocations, tracked.assigned = []
  found : session.found = []
  deleted : session.deletedDeployments = []

structure Undrafted (request : Request) (session : Session) : Prop
    extends Idle request session where
  undrafted : inserted session.deployments = []

structure Bare (request : Request) (session : Session) : Prop
    extends Undrafted request session where
  unclaimed : inserted session.allocations = []

def Op.bare : Op → Bool
  | .read (.reservation _) | .claim _ _ _ _ | .insert (.deployment _) => false
  | .write (.releaseAllocation _) | .write (.assignDeployment _ _)
  | .write (.recordFailure _) | .write (.deleteDeployment _) => false
  | _ => true

theorem assigned_loading {T : Table} {session : List (Tracked T)} {rows : List T.Row}
    (clean : ∀ tracked ∈ session, tracked.assigned = []) :
    ∀ tracked ∈ loading session rows, tracked.assigned = [] := by
  intro tracked member
  rcases mem_loading.mp member with old | ⟨row, _, rfl, _⟩
  · exact clean tracked old
  · rfl

theorem assigned_append {T : Table} {session : List (Tracked T)} {rows : List T.Row}
    (clean : ∀ tracked ∈ session, tracked.assigned = []) :
    ∀ tracked ∈ session ++ rows.map .insert, tracked.assigned = [] := by
  intro tracked member
  rcases List.mem_append.mp member with old | new
  · exact clean tracked old
  · obtain ⟨row, _, rfl⟩ := List.mem_map.mp new
    rfl

section Bare

variable {request : Request} {session : Session}

theorem Bare.after (bare : Bare request session) {op : Op} (allowed : op.bare = true)
    (reply : Reply op) : Bare request (session.after op reply) := by
  obtain ⟨⟨⟨same, deployments, allocations, found, deleted⟩, undrafted⟩, unclaimed⟩ := bare
  have kept {after : Session} (sameRequest : after.request = session.request)
      (sameDeployments : after.deployments = session.deployments)
      (sameAllocations : after.allocations = session.allocations)
      (sameFound : after.found = session.found)
      (sameDeleted : after.deletedDeployments = session.deletedDeployments) :
      Bare request after := by
    refine ⟨⟨⟨?_, ?_, ?_, ?_, ?_⟩, ?_⟩, ?_⟩
    · rw [sameRequest, same]
    · rwa [sameDeployments]
    · rwa [sameAllocations]
    · rw [sameFound, found]
    · rw [sameDeleted, deleted]
    · rw [sameDeployments, undrafted]
    · rw [sameAllocations, unclaimed]
  have loads (rows : List ModelDeployment) {after : Session}
      (sameRequest : after.request = session.request)
      (loaded : after.deployments = loading (T := deploymentTable) session.deployments rows)
      (sameAllocations : after.allocations = session.allocations)
      (sameFound : after.found = session.found)
      (sameDeleted : after.deletedDeployments = session.deletedDeployments) :
      Bare request after := by
    refine ⟨⟨⟨?_, ?_, ?_, ?_, ?_⟩, ?_⟩, ?_⟩
    · rw [sameRequest, same]
    · rw [loaded]
      exact assigned_loading (T := deploymentTable) deployments
    · rwa [sameAllocations]
    · rw [sameFound, found]
    · rw [sameDeleted, deleted]
    · rw [loaded]
      exact (inserted_loading (T := deploymentTable) _ _).trans undrafted
    · rw [sameAllocations, unclaimed]
  cases op with
  | read query =>
      cases query with
      | reservation id => cases allowed
      | activeOn nodeId =>
          exact ⟨⟨⟨same, deployments, assigned_loading (T := allocationTable) allocations, found,
            deleted⟩, undrafted⟩, (inserted_loading (T := allocationTable) _ _).trans unclaimed⟩
      | pending | deployments => exact loads _ rfl rfl rfl rfl rfl
      | deployment id =>
          cases reply with
          | none => exact kept rfl rfl rfl rfl rfl
          | some row => exact loads _ rfl rfl rfl rfl rfl
      | model id | gpuByUuid uuid => cases reply <;> exact kept rfl rfl rfl rfl rfl
      | node id | nodeNamed name | nodes limit | pollable | gpusOf nodeId =>
          exact kept rfl rfl rfl rfl rfl
  | write write =>
      cases write with
      | assignNode node assignment | assignGpu gpuId assignment | deleteNode id =>
          exact kept rfl rfl rfl rfl rfl
      | releaseAllocation id | assignDeployment id assignment | recordFailure id
      | deleteDeployment id => cases allowed
  | insert draft =>
      cases draft with
      | node draft | gpu draft => exact kept rfl rfl rfl rfl rfl
      | deployment draft => cases allowed
  | claim nodeId devices purpose reservedBy => cases allowed
  | telemetry | flush | agent | serving | raise => exact kept rfl rfl rfl rfl rfl

theorem Idle.finished (idle : Idle request session)
    (other : ∀ reservation, request.action ≠ .release reservation)
    (took : ∀ nodeId gpuIndices purpose reservedBy,
      request.action = .reserve nodeId gpuIndices purpose reservedBy →
        gpuIndices ≠ [] ∧ ∃ reservation, session.Reserved nodeId gpuIndices reservation) :
    session.Finished := by
  obtain ⟨same, deployments, allocations, found, deleted⟩ := idle
  constructor
  · exact fun tracked member _ => .inl (deployments tracked member)
  · exact fun tracked member changed => absurd (allocations tracked member) changed
  · rw [found]
    exact fun entry member => nomatch member
  · rw [deleted]
    exact fun id member => nomatch member
  · exact fun reservation release => absurd (same ▸ release) (other reservation)
  · exact fun nodeId gpuIndices purpose reservedBy reserves =>
      took nodeId gpuIndices purpose reservedBy (same ▸ reserves)

theorem Idle.ended (idle : Idle request session) (other : request.action.books = false) :
    session.Finished := by
  refine idle.finished (fun reservation same => ?_)
    fun nodeId gpuIndices purpose reservedBy same => ?_
  · rw [same] at other
    cases other
  · rw [same] at other
    cases other

theorem bare_opened (request : Request) : Bare request (opened request) :=
  ⟨⟨⟨rfl, fun _ member => (nomatch member), fun _ member => (nomatch member), rfl, rfl⟩, rfl⟩, rfl⟩

theorem Bare.follows {β : Type} (bare : Bare request session) {op : Op}
    {rest : Reply op → DeploymentProgram β} {post : β → Session → Prop}
    (permitted : session.Permits op) (allowed : op.bare = true)
    (next : ∀ reply, Replied session op reply → Bare request (session.after op reply) →
      Follows (rest reply) (session.after op reply) post) :
    Follows (Program.perform op Program.done >>= rest) session post :=
  follows_perform permitted fun reply replied _ => next reply replied (bare.after allowed reply)

theorem Bare.last (bare : Bare request session) {op : Op} (permitted : session.Permits op)
    (allowed : op.bare = true) :
    Follows (Program.perform op Program.done) session fun _ => Bare request :=
  follows_last permitted fun reply _ _ => bare.after allowed reply

end Bare

section Inventory

variable {request : Request} {session : Session}

theorem Bare.syncs (bare : Bare request session) (syncs : request.action.syncs = true) :
    session.action.syncs = true := by
  rw [Session.action, bare.request, syncs]

theorem follows_assignNode (bare : Bare request session) (syncs : request.action.syncs = true)
    (node : Node) (assignment : NodeAssignment) :
    Follows (assignNode node assignment) session fun _ => Bare request :=
  bare.last (bare.syncs syncs) rfl

theorem follows_assignGpu (bare : Bare request session) (syncs : request.action.syncs = true)
    (gpuId : Nat) (assignment : GpuAssignment) :
    Follows (assignGpu gpuId assignment) session fun _ => Bare request :=
  bare.last (bare.syncs syncs) rfl

theorem follows_adoptDevice (bare : Bare request session) (syncs : request.action.syncs = true)
    (nodeId : Nat) (device : Device) :
    Follows (adoptDevice nodeId device) session fun _ => Bare request := by
  refine bare.follows trivial rfl fun reply _ read => ?_
  cases reply with
  | none => exact read.last (read.syncs syncs) rfl
  | some gpu =>
      exact follows_bind (follows_assignGpu read syncs gpu.id _) fun _ _ after => after

theorem follows_syncDevices (bare : Bare request session) (syncs : request.action.syncs = true)
    (nodeId : Nat) (devices : List Device) (existing : List (String × Nat)) :
    Follows (syncDevices nodeId devices existing) session fun _ => Bare request := by
  induction devices generalizing session existing with
  | nil => exact bare
  | cons device rest ih =>
      have later (gpuId : Nat) {session : Session} (bare : Bare request session) :
          Follows (do
            assignGpu gpuId (.index device.index)
            assignGpu gpuId (.name device.name)
            assignGpu gpuId (.memoryTotalMib device.memoryTotalMib)
            syncDevices nodeId rest ((device.uuid, gpuId) :: existing)) session
              fun _ => Bare request := by
        refine follows_bind (follows_assignGpu bare syncs gpuId _) fun _ _ bare => ?_
        refine follows_bind (follows_assignGpu bare syncs gpuId _) fun _ _ bare => ?_
        refine follows_bind (follows_assignGpu bare syncs gpuId _) fun _ _ bare => ?_
        exact ih bare _
      rw [syncDevices]
      cases existing.lookup device.uuid with
      | some gpuId => exact later gpuId bare
      | none =>
          exact follows_bind (follows_adoptDevice bare syncs nodeId device)
            fun gpuId _ bare => later gpuId bare

theorem follows_syncGpus (bare : Bare request session) (syncs : request.action.syncs = true)
    (node : Node) : Follows (syncGpus node) session fun _ => Bare request := by
  refine bare.follows trivial rfl fun payload _ bare => ?_
  cases payload with
  | error failure => exact bare
  | ok payload =>
      cases available : payload.available with
      | false =>
          simp only [available]
          exact bare
      | true =>
          simp only [available]
          refine bare.follows trivial rfl fun existing _ bare => ?_
          refine follows_bind (follows_syncDevices bare syncs node.id payload.devices _)
            fun _ _ bare => ?_
          refine bare.follows trivial rfl fun passed _ bare => ?_
          cases passed with
          | true => exact bare
          | false => exact follows_raised

theorem follows_syncSection (bare : Bare request session) (node : Node) (call : AgentCall)
    (plain : session.Permits (.agent node.agentUrl call)) :
    Follows (syncSection node call) session fun _ => Bare request := by
  refine bare.follows plain rfl fun reply _ bare => ?_
  cases reply with
  | error failure => exact bare
  | ok value => exact bare

theorem follows_sectionEnded (bare : Bare request session) (syncs : request.action.syncs = true)
    (node : Node) (failure : Option AgentFailure) :
    Follows (sectionEnded node failure) session fun _ => Bare request := by
  cases failure with
  | none => exact bare
  | some failure =>
      cases failure with
      | raised message => exact follows_raised
      | unreachable message | error message => exact follows_assignNode bare syncs node _

theorem follows_syncNode (bare : Bare request session) (syncs : request.action.syncs = true)
    (node : Node) : Follows (syncNode node) session fun _ => Bare request := by
  refine bare.follows trivial rfl fun connected _ bare => ?_
  cases connected with
  | error failure => exact follows_assignNode bare syncs node _
  | ok _ =>
      refine bare.follows trivial rfl fun health _ bare => ?_
      cases health with
      | error failure =>
          cases failure with
          | raised message => exact follows_raised
          | unreachable message | error message => exact follows_assignNode bare syncs node _
      | ok degraded =>
          refine follows_bind (follows_assignNode bare syncs node _) fun _ _ bare => ?_
          refine follows_bind (follows_syncSection bare node .system trivial) fun _ _ bare => ?_
          refine follows_bind (follows_sectionEnded bare syncs node _) fun _ _ bare => ?_
          refine follows_bind (follows_syncGpus bare syncs node) fun _ _ bare => ?_
          refine follows_bind (follows_sectionEnded bare syncs node _) fun _ _ bare => ?_
          refine follows_bind (follows_syncSection bare node .containers trivial)
            fun _ _ bare => ?_
          exact follows_sectionEnded bare syncs node _

theorem follows_syncEach (bare : Bare request session) (syncs : request.action.syncs = true)
    (nodes : List Node) : Follows (syncEach nodes) session fun _ => Bare request := by
  induction nodes generalizing session with
  | nil => exact bare
  | cons node rest ih =>
      exact follows_bind (follows_syncNode bare syncs node) fun _ _ bare => ih bare

theorem follows_registerNode (bare : Bare request session) (syncs : request.action.syncs = true)
    (name agentUrl : String) :
    Follows (registerNode name agentUrl) session fun _ => Bare request := by
  refine bare.follows trivial rfl fun named _ bare => ?_
  cases named with
  | some node => exact follows_raised
  | none =>
      refine bare.follows trivial rfl fun health _ bare => ?_
      cases health with
      | error failure => cases failure <;> exact follows_raised
      | ok degraded =>
          refine bare.follows (bare.syncs syncs) rfl fun id _ bare => ?_
          exact follows_syncNode bare syncs _

theorem follows_checkNode (bare : Bare request session) (syncs : request.action.syncs = true)
    (nodeId : Nat) : Follows (checkNode nodeId) session fun _ => Bare request := by
  refine bare.follows trivial rfl fun node _ bare => ?_
  cases node with
  | none => exact follows_raised
  | some node => exact follows_syncNode bare syncs node

theorem follows_deleteNode (bare : Bare request session) (nodeId : Nat)
    (deletes : request.action = .deleteNode nodeId) :
    Follows (deleteNode nodeId) session fun _ => Bare request := by
  refine bare.follows trivial rfl fun node replied bare => ?_
  cases node with
  | none => exact follows_raised
  | some node =>
      refine bare.last ?_ rfl
      have same : node.id = nodeId := replied node rfl
      rw [Session.Permits, Session.PermitsWrite, Session.action, bare.request, deletes, same]

end Inventory

section Reservations

variable {request : Request} {session : Session}

theorem devicesOf_ok {gpus : List Gpu} {indices : List Int} {devices : List (Int × Nat)}
    (found : devicesOf gpus indices = .ok devices) :
    devices.map (·.1) = indices ∧
      ∀ device ∈ devices, ∃ gpu ∈ gpus, gpu.index = device.1 ∧ gpu.id = device.2 := by
  induction indices generalizing devices with
  | nil =>
      cases found
      exact ⟨rfl, fun _ member => nomatch member⟩
  | cons index rest ih =>
      rw [devicesOf] at found
      split at found
      · cases found
      · rename_i gpu hit
        split at found
        · cases found
        · rename_i others tail
          cases found
          obtain ⟨indices, known⟩ := ih tail
          refine ⟨by simp [indices], fun device member => ?_⟩
          rcases List.mem_cons.mp member with rfl | later
          · have listed := List.mem_of_find?_eq_some hit
            exact ⟨gpu, List.mem_reverse.mp listed, by simpa using List.find?_some hit, rfl⟩
          · exact known device later

theorem listed_after {nodeId : Nat} {gpus : List Gpu}
    (replied : Replied session (.read (.gpusOf nodeId)) gpus) {gpu : Gpu} (member : gpu ∈ gpus) :
    (session.after (.read (.gpusOf nodeId)) gpus).Listed nodeId (gpu.index, gpu.id) := by
  obtain ⟨found, rfl⟩ := replied
  obtain ⟨tracked, listed, rfl⟩ := instance_loading (T := gpuTable) member
  refine ⟨(nodeId, _), List.mem_append_right _ (List.mem_singleton.mpr rfl), rfl, ?_, tracked,
    listed, ?_, rfl⟩
  · exact List.mem_map_of_mem member
  · exact (Tracked.key_row tracked).symm

theorem Undrafted.claimed (undrafted : Undrafted request session) {nodeId : Nat}
    {devices : List (Int × Nat)} {purpose : String} {reservedBy : Option Nat}
    (reply : Reply (.claim nodeId devices purpose reservedBy)) :
    Undrafted request (session.after (.claim nodeId devices purpose reservedBy) reply) := by
  obtain ⟨⟨same, deployments, allocations, found, deleted⟩, undrafted⟩ := undrafted
  cases reply with
  | none => exact ⟨⟨same, deployments, allocations, found, deleted⟩, undrafted⟩
  | some claimed =>
      exact ⟨⟨same, deployments, assigned_append (T := allocationTable) allocations, found,
        deleted⟩, undrafted⟩

theorem follows_reserve (bare : Bare request session) (reserves : request.action.reserves = true)
    (nodeId : Nat) (gpuIndices : List Int) (purpose : String) (reservedBy : Option Nat) :
    Follows (reserve nodeId gpuIndices purpose reservedBy) session fun reservation final =>
      Undrafted request final ∧ gpuIndices ≠ [] ∧
        final.Reserved nodeId gpuIndices reservation := by
  unfold reserve
  split
  · exact follows_raised
  · rename_i nonempty
    split
    · exact follows_raised
    · rename_i distinct
      refine bare.follows trivial rfl fun gpus replied bare => ?_
      cases found : devicesOf gpus gpuIndices with
      | error index => exact follows_raised
      | ok devices =>
          obtain ⟨indices, known⟩ := devicesOf_ok found
          refine follows_perform ⟨?_, ?_, fun device member => ?_⟩ fun reply claimed _ => ?_
          · rw [Session.action, bare.request, reserves]
          · rw [indices]
            simpa using distinct
          · obtain ⟨gpu, listed, index, id⟩ := known device member
            have own := listed_after replied listed
            rwa [index, id] at own
          · have undrafted := bare.toUndrafted.claimed reply
            cases reply with
            | none => exact follows_raised
            | some claim =>
                obtain ⟨reservation, rows⟩ := claim
                obtain ⟨same, own⟩ := claimed reservation rows rfl
                have fresh : inserted ((session.after (.read (.gpusOf nodeId)) gpus).after
                    (.claim nodeId devices purpose reservedBy)
                      (some (reservation, rows))).allocations = rows := by
                  refine (inserted_append (T := allocationTable) _ rows).trans ?_
                  rw [bare.unclaimed, List.nil_append]
                refine ⟨undrafted, by simpa using nonempty, ?_, ?_⟩
                · rw [fresh]
                  exact same.trans indices
                · rw [fresh]
                  exact own

theorem follows_freeIndices (bare : Bare request session) (nodeId : Nat) :
    Follows (freeIndices nodeId) session fun _ => Bare request := by
  refine bare.follows trivial rfl fun claimed _ bare => ?_
  refine bare.follows trivial rfl fun gpus _ bare => ?_
  exact bare

theorem follows_gpuResourcesFor (bare : Bare request session) (nodeIds : List Nat) :
    Follows (gpuResourcesFor nodeIds) session fun _ => Bare request := by
  induction nodeIds generalizing session with
  | nil => exact bare
  | cons nodeId rest ih =>
      refine bare.follows trivial rfl fun gpus _ bare => ?_
      simp only
      split
      · exact ih bare
      · refine bare.follows trivial rfl fun samples _ bare => ?_
        refine follows_bind (follows_freeIndices bare nodeId) fun free _ bare => ?_
        exact follows_bind (ih bare) fun others _ bare => bare

end Reservations

section Deploy

variable {request : Request} {session : Session}

theorem follows_imageFor {α : Type} {settings : Settings} {runtime : String}
    {rest : String → DeploymentProgram α} {post : α → Session → Prop}
    (next : ∀ image, Follows (rest image) session post) :
    Follows (imageFor settings runtime >>= rest) session post := by
  unfold imageFor
  split
  · exact next _
  · exact follows_raise

theorem follows_validateModel (bare : Bare request session) (settings : Settings) (model : Model)
    (runtime : String) :
    Follows (validateModel settings model runtime) session fun _ => Bare request := by
  unfold validateModel
  split
  · exact follows_raised
  · split
    · exact follows_raised
    · exact follows_imageFor fun _ => bare

theorem follows_pickNode (bare : Bare request session) (spec : DeploymentRequestSpec) :
    Follows (pickNode spec) session fun _ => Bare request := by
  unfold pickNode
  split
  · exact bare
  · refine bare.follows trivial rfl fun node _ bare => ?_
    cases node with
    | none => exact follows_raised
    | some node =>
        simp only
        split
        · exact follows_raised
        · exact bare

theorem follows_firstOnlineNode (bare : Bare request session) :
    Follows firstOnlineNode session fun _ => Bare request := by
  refine bare.follows trivial rfl fun nodes _ bare => ?_
  split
  · exact bare
  · exact follows_raised

theorem follows_place (bare : Bare request session) (settings : Settings) (model : Model)
    (spec : DeploymentRequestSpec) (node : Option Node) (runtime : String) :
    Follows (place settings model spec node runtime) session fun placement final =>
      Bare request final ∧ placement.reservationId = none := by
  unfold place
  split
  · cases node with
    | some node => exact ⟨bare, rfl⟩
    | none =>
        exact follows_bind (follows_firstOnlineNode bare) fun target final bare => ⟨bare, rfl⟩
  · cases node with
    | some node =>
        simp only [Program.pure_eq, Program.done_bind]
        refine follows_bind (follows_gpuResourcesFor bare [node.id]) fun resources final bare => ?_
        split
        · exact follows_raised
        · rename_i placement planned
          exact ⟨bare, plan_unreserved planned⟩
    | none =>
        refine bare.follows trivial rfl fun nodes _ bare => ?_
        simp only [Program.pure_eq, Program.done_bind]
        refine follows_bind (follows_gpuResourcesFor bare _) fun resources final bare => ?_
        split
        · exact follows_raised
        · rename_i placement planned
          exact ⟨bare, plan_unreserved planned⟩

def Kept (session : Session) (placement : Placement) : Prop :=
  match placement.reservationId with
  | some reservation =>
      placement.gpuIndices ≠ [] ∧
        session.Reserved placement.nodeId placement.gpuIndices reservation
  | none => placement.gpuIndices = []

theorem follows_reservePlacement (bare : Bare request session)
    (reserves : request.action.reserves = true) (model : Model) (placement : Placement)
    (unreserved : placement.reservationId = none) :
    Follows (reservePlacement model placement) session fun reserved final =>
      Undrafted request final ∧ Kept final reserved := by
  unfold reservePlacement
  split
  · rename_i empty
    refine ⟨bare.toUndrafted, ?_⟩
    simp only [Kept, unreserved]
    simpa using empty
  · refine follows_bind (follows_reserve bare reserves _ _ _ _) fun reservation final claimed => ?_
    exact ⟨claimed.1, claimed.2⟩

theorem Idle.inserted {draft : ModelDeployment} (idle : Idle request session) (id : Nat) :
    Idle request (session.after (.insert (.deployment draft)) id) := by
  obtain ⟨same, deployments, allocations, found, deleted⟩ := idle
  exact ⟨same, @assigned_append deploymentTable _ [_] deployments, allocations, found, deleted⟩

theorem follows_attachExternal (bare : Bare request session) {spec : DeploymentRequestSpec}
    (actor : Nat) (deploys : request.action = .deploy spec actor) (settings : Settings)
    (model : Model) (runtime : String) :
    Follows (attachExternal settings model runtime actor) session fun _ => Idle request := by
  unfold attachExternal
  simp only
  split
  · exact follows_raised
  · refine bare.follows trivial rfl fun served _ bare => ?_
    cases served with
    | error message => exact follows_raise
    | ok served =>
        obtain ⟨healthy, detail⟩ := served
        cases healthy with
        | false => exact follows_raised
        | true =>
            refine follows_last ⟨⟨spec, actor, ?_⟩, bare.undrafted, rfl, rfl⟩
              fun id _ _ => bare.toIdle.inserted id
            rw [Session.action, bare.request, deploys]

theorem follows_requestDeployment (bare : Bare request session) (spec : DeploymentRequestSpec)
    (actor : Nat) (deploys : request.action = .deploy spec actor) (settings : Settings) :
    Follows (requestDeployment settings spec actor) session fun _ => Idle request := by
  refine bare.follows trivial rfl fun model _ bare => ?_
  cases model with
  | none => exact follows_raised
  | some model =>
      simp only
      generalize (spec.runtime.filter Agents.truthy).getD
        (if Agents.truthy model.runtime then model.runtime else settings.defaultRuntime) = runtime
      split
      · exact follows_attachExternal bare actor deploys settings model _
      · refine follows_bind (follows_validateModel bare settings model _) fun _ _ bare => ?_
        refine follows_bind (follows_pickNode bare spec) fun node _ bare => ?_
        refine follows_bind (follows_place bare settings model spec node _)
          fun placement _ placed => ?_
        have reserves : request.action.reserves = true := by rw [deploys]; rfl
        refine follows_bind (follows_reservePlacement placed.1 reserves model placement placed.2)
          fun reserved final held => ?_
        refine follows_imageFor fun image => ?_
        refine follows_last ⟨⟨spec, actor, ?_⟩, held.1.undrafted, rfl, ?_⟩
          fun id _ _ => held.1.toIdle.inserted id
        · rw [Session.action, held.1.request, deploys]
        · have kept := held.2
          unfold Kept at kept
          cases own : reserved.reservationId with
          | none =>
              simp only [own] at kept ⊢
              exact kept
          | some reservation =>
              simp only [own] at kept ⊢
              exact ⟨kept.1, reserved.nodeId, rfl, kept.2⟩

end Deploy

section Scans

variable {request : Request} {session : Session} {rows : List ModelDeployment}

structure Scan (request : Request) (rows : List ModelDeployment) (session : Session) : Prop
    extends Bare request session where
  scanned : session.scanned = some rows

theorem Scan.agent (scan : Scan request rows session) {agentUrl : String} {call : AgentCall}
    (reply : Reply (.agent agentUrl call)) :
    Scan request rows (session.after (.agent agentUrl call) reply) :=
  ⟨scan.toBare.after rfl reply, scan.scanned⟩

theorem follows_reconcileContainers (scan : Scan request rows session) (node : Node)
    (remove : Bool) (reconciles : request.action = .reconcile remove)
    (containers : List (Hosts.Container ContainerSpec)) :
    Follows (reconcileContainers node (knownIds rows) remove containers) session
      fun _ => Scan request rows := by
  induction containers generalizing session with
  | nil => exact scan
  | cons container rest ih =>
      unfold reconcileContainers
      split
      · exact ih scan
      · rename_i unclaimed
        cases remove with
        | false =>
            simp only [Program.pure_eq, Program.done_bind]
            exact follows_bind (ih scan) fun others _ scan => scan
        | true =>
            refine follows_perform ?_ fun reply _ _ => ?_
            · intro remove same
              rw [Session.action, scan.request, reconciles] at same
              cases same
              exact ⟨rfl, rows, scan.scanned, by simpa using unclaimed⟩
            · have scan := scan.agent reply
              cases reply with
              | ok value | error failure =>
                  simp only [Program.pure_eq, Program.done_bind]
                  exact follows_bind (ih scan) fun others _ scan => scan

theorem follows_scanNode (scan : Scan request rows session) (node : Node) :
    Follows (scanNode node) session fun _ => Scan request rows := by
  refine follows_perform trivial fun reply _ _ => ?_
  have scan := scan.agent reply
  cases reply with
  | error failure => exact scan
  | ok value =>
      refine follows_perform trivial fun reply _ _ => ?_
      have scan := scan.agent reply
      cases reply with
      | error failure => exact scan
      | ok containers => exact scan

theorem follows_reconcileNodes (scan : Scan request rows session) (remove : Bool)
    (reconciles : request.action = .reconcile remove) (nodes : List Node) :
    Follows (reconcileNodes (knownIds rows) remove nodes) session fun _ => Scan request rows := by
  induction nodes generalizing session with
  | nil => exact scan
  | cons node rest ih =>
      unfold reconcileNodes
      split
      · exact follows_bind (ih scan) fun _ _ scan => scan
      · refine follows_bind (follows_scanNode scan node) fun scanned _ scan => ?_
        cases scanned with
        | none => exact follows_bind (ih scan) fun _ _ scan => scan
        | some containers =>
            refine follows_bind (follows_reconcileContainers scan node remove reconciles containers)
              fun _ _ scan => ?_
            exact follows_bind (ih scan) fun _ _ scan => scan

theorem follows_reconcileOrphans (bare : Bare request session) (none : session.deployments = [])
    (remove : Bool) (reconciles : request.action = .reconcile remove) :
    Follows (reconcileOrphans remove) session fun _ => Bare request := by
  refine bare.follows ⟨⟨remove, ?_⟩, none⟩ rfl fun deployments _ bare => ?_
  · rw [Session.action, bare.request, reconciles]
  · have scan : Scan request deployments (session.after (.read .deployments) deployments) :=
      ⟨bare, rfl⟩
    refine follows_perform trivial fun nodes _ _ => ?_
    have scan : Scan request deployments (Session.after _ (.read (.nodes 100)) nodes) :=
      ⟨scan.toBare.after rfl nodes, scan.scanned⟩
    exact follows_mono (follows_reconcileNodes scan remove reconciles nodes)
      fun _ _ scan => scan.toBare

end Scans

section Releases

variable {session : Session} {excused : Nat → Prop}

/-- What the session looked up is released, but for `pending`, and what it
released belongs to a reservation it gives up. -/
structure Books (excused : Nat → Prop) (pending : List Nat) (session : Session) : Prop where
  accounts : ∀ tracked ∈ session.allocations, tracked.assigned ≠ [] →
    ∃ entry ∈ session.found, tracked.key ∈ entry.2 ∧ (excused entry.1 ∨ session.Vacates entry.1)
  emptied : ∀ entry ∈ session.found, ∀ id ∈ entry.2, id ∈ pending ∨
    ∃ tracked ∈ session.allocations, tracked.key = id ∧ tracked.row.released = true

def Elsewhere (before after : Session) : Prop :=
  ∃ allocations found, after = { before with allocations := allocations, found := found }

theorem Books.released {id : Nat} {pending : List Nat}
    (books : Books excused (id :: pending) session) {entry : Nat × List Nat}
    (own : entry ∈ session.found) (listed : id ∈ entry.2) (excuse : excused entry.1)
    (known : ∃ tracked ∈ session.allocations, tracked.key = id) :
    Books excused pending (session.after (.write (.releaseAllocation id)) ()) := by
  constructor
  · intro tracked member changed
    rcases mem_assigning (T := allocationTable) member with old | ⟨old, _, keyed, rfl⟩
    · exact books.accounts tracked old changed
    · exact ⟨entry, own, by rwa [Tracked.assign_key, keyed], .inl excuse⟩
  · intro other found key member
    have kept (tracked : Tracked allocationTable) (there : tracked ∈ session.allocations)
        (keyed : tracked.key = key) (released : tracked.row.released = true ∨ key = id) :
        ∃ next ∈ (session.after (.write (.releaseAllocation id)) ()).allocations,
          next.key = key ∧ next.row.released = true := by
      by_cases same : key = id
      · obtain ⟨next, listed, keyed, _, _, row⟩ :=
          @assigned_row allocationTable _ _ _ .released _ there keyed
        rw [same] at listed
        exact ⟨next, listed, keyed, by rw [row]; rfl⟩
      · have other : tracked.key ≠ id := by rwa [keyed]
        exact ⟨tracked, mem_assigning_other (T := allocationTable) there other, keyed,
          released.resolve_right same⟩
    rcases books.emptied other found key member with waits | ⟨tracked, there, keyed, released⟩
    · rcases List.mem_cons.mp waits with rfl | later
      · obtain ⟨tracked, there, keyed⟩ := known
        exact .inr (kept tracked there keyed (.inr rfl))
      · exact .inl later
    · exact .inr (kept tracked there keyed (.inl released))

theorem follows_releaseEach {entry : Nat × List Nat} (active : List GpuAllocation)
    (books : Books excused (active.map (·.id)) session) (own : entry ∈ session.found)
    (excuse : excused entry.1) (may : session.MayRelease entry.1)
    (known : ∀ row ∈ active, row.id ∈ entry.2 ∧
      ∃ tracked ∈ session.allocations, tracked.key = row.id)
    (distinct : session.Distinct) :
    Follows (releaseEach active) session fun _ final =>
      Books excused [] final ∧ final.Distinct ∧
        ∃ allocations, final = { session with allocations := allocations } := by
  induction active generalizing session with
  | nil => exact ⟨books, distinct, session.allocations, rfl⟩
  | cons row rest ih =>
      obtain ⟨listed, there⟩ := known row List.mem_cons_self
      refine follows_perform ⟨entry, own, listed, may⟩ fun _ _ distinct => ?_
      refine follows_mono (ih (books.released own listed excuse there) own may ?_ distinct) ?_
      · intro other member
        obtain ⟨listed, tracked, present, keyed⟩ :=
          known other (List.mem_cons_of_mem _ member)
        refine ⟨listed, ?_⟩
        have keys : tracked.key ∈ (assigning (T := allocationTable) session.allocations row.id
            .released).map (·.key) := by
          rw [keys_assigning (T := allocationTable)]
          exact List.mem_map_of_mem present
        obtain ⟨next, present, same⟩ := List.mem_map.mp keys
        exact ⟨next, present, same.trans keyed⟩
      · rintro _ final ⟨books, distinct, allocations, rfl⟩
        exact ⟨books, distinct, allocations, rfl⟩

theorem Books.looked (books : Books excused [] session) {reservation : Nat}
    {rows : List GpuAllocation} (replied : Replied session (.read (.reservation reservation)) rows) :
    Books excused ((rows.filter (·.active)).map (·.id))
      (session.after (.read (.reservation reservation)) rows) := by
  obtain ⟨found, rfl⟩ := replied
  constructor
  · intro tracked member changed
    rcases mem_loading.mp member with old | ⟨row, _, rfl, _⟩
    · obtain ⟨entry, own, listed, cause⟩ := books.accounts tracked old changed
      exact ⟨entry, List.mem_append_left _ own, listed, cause⟩
    · exact absurd rfl changed
  · intro entry member id listed
    rcases List.mem_append.mp member with old | new
    · rcases books.emptied entry old id listed with waits | ⟨tracked, there, keyed, released⟩
      · cases waits
      · exact .inr ⟨tracked, mem_loading.mpr (.inl there), keyed, released⟩
    · rw [List.mem_singleton.mp new] at listed
      obtain ⟨row, known, rfl⟩ := List.mem_map.mp listed
      cases released : row.released with
      | false =>
          refine .inl (List.mem_map_of_mem (List.mem_filter.mpr ⟨known, ?_⟩))
          simp [GpuAllocation.active, released]
      | true =>
          obtain ⟨tracked, there, rfl⟩ := instance_loading (T := allocationTable) known
          exact .inr ⟨tracked, there, (Tracked.key_row tracked).symm, released⟩

theorem follows_release (books : Books excused [] session) {reservation : Nat}
    (excuse : excused reservation) (may : session.MayRelease reservation) :
    Follows (release reservation) session fun _ final =>
      Books excused [] final ∧ final.Distinct ∧ Elsewhere session final ∧
        ∃ entry ∈ final.found, entry.1 = reservation := by
  refine follows_perform may fun rows replied distinct => ?_
  have last : (reservation, List.map GpuAllocation.id rows) ∈
      (session.after (.read (.reservation reservation)) rows).found :=
    List.mem_append_right _ (List.mem_singleton.mpr rfl)
  refine follows_bind (follows_releaseEach _ (books.looked replied) last excuse may ?_ distinct) ?_
  · intro row member
    have known := (List.mem_filter.mp member).1
    obtain ⟨found, rfl⟩ := replied
    obtain ⟨tracked, there, rfl⟩ := instance_loading (T := allocationTable) known
    exact ⟨List.mem_map_of_mem known, tracked, there, (Tracked.key_row tracked).symm⟩
  · rintro _ final ⟨books, distinct, allocations, rfl⟩
    exact ⟨books, distinct, ⟨allocations, _, rfl⟩, _, last, rfl⟩

end Releases

/-- The session has come to an end with each of its deployments but `waiting`,
which it has not touched. -/
structure Settling (request : Request) (waiting : List ModelDeployment) (session : Session) :
    Prop where
  request : session.request = request
  waiting : ∀ row ∈ waiting, ∃ tracked ∈ session.deployments, tracked.assigned = [] ∧
    tracked.original = row
  left : ∀ tracked ∈ session.deployments, tracked.inserted = false ∧
    (tracked.assigned = [] ∨ session.Leaves tracked)
  books : Books (fun _ => False) [] session
  deleted : session.deletedDeployments = []
  distinct : session.Distinct

structure Handling (request : Request) (row : ModelDeployment) (waiting : List ModelDeployment)
    (holds : ModelDeployment → Prop) (excused : Nat → Prop) (session : Session) : Prop where
  request : session.request = request
  own : ∃ tracked ∈ session.deployments, tracked.original = row ∧ holds tracked.row
  apart : ∀ other ∈ waiting, other.id ≠ row.id
  waiting : ∀ other ∈ waiting, ∃ tracked ∈ session.deployments, tracked.assigned = [] ∧
    tracked.original = other
  left : ∀ tracked ∈ session.deployments, tracked.inserted = false ∧
    (tracked.key = row.id ∨ tracked.assigned = [] ∨ session.Leaves tracked)
  books : Books excused [] session
  deleted : session.deletedDeployments = []
  distinct : session.Distinct

section Handling

variable {request : Request} {session : Session} {row : ModelDeployment}
  {waiting : List ModelDeployment} {holds holds' : ModelDeployment → Prop} {excused : Nat → Prop}

def Works (request : Request) : Prop :=
  request.action.steers = true ∨ request.action.ticks = true

def SameClaimed (row current : ModelDeployment) : Prop :=
  current.reservationId = row.reservationId

theorem Settling.handle (settling : Settling request (row :: waiting) session)
    (apart : ∀ other ∈ waiting, other.id ≠ row.id) :
    Handling request row waiting (· = row) (fun _ => False) session := by
  obtain ⟨same, wait, left, books, deleted, distinct⟩ := settling
  obtain ⟨tracked, member, clean, original⟩ := wait row List.mem_cons_self
  refine ⟨same, ⟨tracked, member, original, ?_⟩, apart, ?_, ?_, books, deleted, distinct⟩
  · rw [Tracked.row, clean, Tracked.replay_nil, original]
  · exact fun other later => wait other (List.mem_cons_of_mem _ later)
  · exact fun tracked member => ⟨(left tracked member).1, .inr (left tracked member).2⟩

theorem instance_unique (distinct : session.Distinct) {left right : Tracked deploymentTable}
    (first : left ∈ session.deployments) (second : right ∈ session.deployments)
    (same : left.key = right.key) : left = right :=
  List.inj_on_of_nodup_map distinct.deployments first second same

theorem Handling.weaken (handling : Handling request row waiting holds excused session)
    (weaker : ∀ current, holds current → holds' current) :
    Handling request row waiting holds' excused session := by
  obtain ⟨tracked, member, original, own⟩ := handling.own
  exact { handling with own := ⟨tracked, member, original, weaker _ own⟩ }

theorem Handling.works (handling : Handling request row waiting holds excused session)
    (works : Works request) : session.action.steers = true ∨ session.action.ticks = true := by
  rwa [Session.action, handling.request]

theorem Handling.assigned (handling : Handling request row waiting holds excused session)
    (assignment : DeploymentAssignment)
    (next : ∀ current, holds current → holds' (assignment.apply current))
    (covers : ∀ current reservation, holds current → row.reservationId = some reservation →
      current.reservationId = none → excused reservation)
    (distinct : (session.assignDeployment row.id assignment).Distinct) :
    Handling request row waiting holds' excused (session.assignDeployment row.id assignment) := by
  obtain ⟨own, member, original, held⟩ := handling.own
  have keyed : own.key = row.id := by rw [Tracked.key, original]
  constructor
  · exact handling.request
  · obtain ⟨changed, listed, _, first, _, value⟩ :=
      @assigned_row deploymentTable _ _ _ assignment _ member keyed
    exact ⟨changed, listed, first.trans original, by rw [value]; exact next _ held⟩
  · exact handling.apart
  · intro other later
    obtain ⟨tracked, there, clean, first⟩ := handling.waiting other later
    have different : tracked.key ≠ row.id := by
      rw [Tracked.key, first]
      exact handling.apart other later
    exact ⟨tracked, mem_assigning_other (T := deploymentTable) there different, clean, first⟩
  · intro tracked there
    rcases mem_assigning (T := deploymentTable) there with old | ⟨old, before, key, rfl⟩
    · exact handling.left tracked old
    · exact ⟨(handling.left old before).1, .inl key⟩
  · refine ⟨fun tracked there changed => ?_, handling.books.emptied⟩
    obtain ⟨entry, found, listed, cause⟩ := handling.books.accounts tracked there changed
    refine ⟨entry, found, listed, ?_⟩
    rcases cause with excuse | ⟨other, present, loaded, reserved, free, ended⟩
    · exact .inl excuse
    · by_cases same : other.key = row.id
      · have one := instance_unique handling.distinct present member (same.trans keyed.symm)
        subst one
        rw [original] at reserved
        exact .inl (covers _ _ held reserved free)
      · exact .inr ⟨other, mem_assigning_other (T := deploymentTable) present same, loaded,
          reserved, free, ended⟩
  · exact handling.deleted
  · exact distinct

theorem Handling.writes {β : Type} (handling : Handling request row waiting holds excused session)
    {assignment : DeploymentAssignment} {rest : Unit → DeploymentProgram β}
    {post : β → Session → Prop} (holds' : ModelDeployment → Prop)
    (permitted : session.PermitsWrite (.assignDeployment row.id assignment))
    (next : ∀ current, holds current → holds' (assignment.apply current))
    (covers : ∀ current reservation, holds current → row.reservationId = some reservation →
      current.reservationId = none → excused reservation)
    (follows : ∀ final, Handling request row waiting holds' excused final →
      Follows (rest ()) final post) :
    Follows (assign row.id assignment >>= rest) session post :=
  follows_perform permitted fun _ _ distinct =>
    follows _ (handling.assigned assignment next covers distinct)

theorem Handling.writesLast (handling : Handling request row waiting holds excused session)
    {assignment : DeploymentAssignment} (holds' : ModelDeployment → Prop)
    (permitted : session.PermitsWrite (.assignDeployment row.id assignment))
    (next : ∀ current, holds current → holds' (assignment.apply current))
    (covers : ∀ current reservation, holds current → row.reservationId = some reservation →
      current.reservationId = none → excused reservation) :
    Follows (assign row.id assignment) session
      fun _ => Handling request row waiting holds' excused :=
  follows_last permitted fun _ _ distinct => handling.assigned assignment next covers distinct

theorem Handling.ends (handling : Handling request row waiting holds excused session)
    (free : ∀ current, holds current → current.reservationId = none)
    (ended : ∀ current, holds current → current.state.ended = true)
    (own : ∀ reservation, excused reservation → row.reservationId = some reservation) :
    Settling request waiting session ∧ session.LeavesEnded row.id := by
  obtain ⟨tracked, member, original, held⟩ := handling.own
  have keyed : tracked.key = row.id := by rw [Tracked.key, original]
  have loaded := (handling.left tracked member).1
  refine ⟨⟨handling.request, handling.waiting, fun other there => ?_,
    ⟨fun allocation there changed => ?_, handling.books.emptied⟩, handling.deleted,
    handling.distinct⟩, tracked, member, loaded, keyed, ended _ held⟩
  · obtain ⟨loaded, here | clean | leaves⟩ := handling.left other there
    · have one := instance_unique handling.distinct there member (here.trans keyed.symm)
      subst one
      exact ⟨loaded, .inr (.inl ⟨ended _ held, .inl (free _ held)⟩)⟩
    · exact ⟨loaded, .inl clean⟩
    · exact ⟨loaded, .inr leaves⟩
  · obtain ⟨entry, found, listed, cause⟩ := handling.books.accounts allocation there changed
    refine ⟨entry, found, listed, .inr ?_⟩
    rcases cause with excuse | vacates
    · exact ⟨tracked, member, loaded, by rw [original]; exact own _ excuse, free _ held,
        ended _ held⟩
    · exact vacates

theorem Handling.goesOn
    (handling : Handling request row waiting holds (fun _ => False) session)
    (kept : ∀ current, holds current → SameClaimed row current)
    (alive : ∀ current, holds current → current.state.ended = false)
    (before : row.state.ended = false ∨ request.action.restarts = true) :
    Settling request waiting session := by
  obtain ⟨tracked, member, original, held⟩ := handling.own
  have keyed : tracked.key = row.id := by rw [Tracked.key, original]
  refine ⟨handling.request, handling.waiting, fun other there => ?_, handling.books,
    handling.deleted, handling.distinct⟩
  obtain ⟨loaded, here | clean | leaves⟩ := handling.left other there
  · have one := instance_unique handling.distinct there member (here.trans keyed.symm)
    subst one
    refine ⟨loaded, .inr (.inr ⟨alive _ held, ?_, ?_⟩)⟩
    · rw [original]
      exact kept _ held
    · rw [original, Session.action, handling.request]
      exact before
  · exact ⟨loaded, .inl clean⟩
  · exact ⟨loaded, .inr leaves⟩

theorem covers_claimed {excused : Nat → Prop}
    (kept : ∀ current, holds current → SameClaimed row current) :
    ∀ current reservation, holds current → row.reservationId = some reservation →
      current.reservationId = none → excused reservation := by
  intro current reservation held own free
  rw [kept current held, own] at free
  cases free

theorem Handling.excuse (handling : Handling request row waiting holds (fun _ => False) session) :
    Handling request row waiting holds (fun reservation => row.reservationId = some reservation)
      session := by
  refine { handling with books := ⟨fun tracked member changed => ?_, handling.books.emptied⟩ }
  obtain ⟨entry, found, listed, cause⟩ := handling.books.accounts tracked member changed
  exact ⟨entry, found, listed, .inr (cause.resolve_left id)⟩

theorem follows_releaseReservation (phase : DeploymentState → Prop)
    (handling : Handling request row waiting
      (fun current => SameClaimed row current ∧ phase current.state) (fun _ => False) session)
    (works : Works request) :
    Follows (releaseReservation row) session fun _ =>
      Handling request row waiting
        (fun current => current.reservationId = none ∧ phase current.state)
        fun reservation => row.reservationId = some reservation := by
  unfold releaseReservation
  cases claim : row.reservationId with
  | none =>
      have excused := handling.excuse
      simp only [claim] at excused
      exact excused.weaken fun current held => ⟨held.1.trans claim, held.2⟩
  | some reservation =>
      have excused := handling.excuse
      simp only [claim] at excused ⊢
      obtain ⟨own, member, original, _⟩ := handling.own
      have holds : session.Holds reservation :=
        ⟨own, member, (handling.left own member).1, by rw [original, claim]⟩
      refine follows_bind (follows_release excused.books rfl (.inr holds)) ?_
      rintro _ final ⟨books, distinct, ⟨allocations, found, rfl⟩, entry, listed, keyed⟩
      have handling : Handling request row waiting
          (fun current => SameClaimed row current ∧ phase current.state)
          (fun other => some reservation = some other)
          { session with allocations := allocations, found := found } :=
        ⟨excused.request, excused.own, excused.apart, excused.waiting, excused.left, books,
          excused.deleted, distinct⟩
      refine handling.writesLast (fun current => current.reservationId = none ∧ phase current.state)
        ⟨rfl, handling.works works, ?_⟩ (fun current held => ⟨rfl, held.2⟩) fun current other held own _ => own ▸ claim.symm
      intro tracked there key other reserved
      refine ⟨entry, listed, ?_, fun id known => ?_⟩
      · have one := instance_unique distinct there member (key.trans (by rw [Tracked.key, original]))
        subst one
        obtain ⟨again, here, first, held, _⟩ := handling.own
        have two := instance_unique distinct here member (by rw [Tracked.key, first, key])
        subst two
        rw [held, claim] at reserved
        exact keyed.trans (Option.some.inj reserved)
      · exact (books.emptied entry listed id known).resolve_left List.not_mem_nil

theorem follows_fail (handling : Handling request row waiting (SameClaimed row) (fun _ => False)
    session) (works : Works request) (message : String) (logs : Option String) :
    Follows (fail row message logs) session fun state final =>
      state = .failed ∧ Settling request waiting final ∧ final.LeavesEnded row.id := by
  have failing {session : Session} (handling : Handling request row waiting
      (fun current => SameClaimed row current ∧ current.state = .failed) (fun _ => False) session) :
      Follows (do
        releaseReservation row
        return .failed) session fun state final =>
          state = DeploymentState.failed ∧ Settling request waiting final ∧
            final.LeavesEnded row.id := by
    refine follows_bind (follows_releaseReservation (· = .failed) handling works)
      fun _ final handling => ⟨rfl, ?_⟩
    exact handling.ends (fun current held => held.1)
      (fun current held => by rw [held.2]; rfl) fun _ own => own
  let failed (current : ModelDeployment) : Prop := SameClaimed row current ∧ current.state = .failed
  have claimed (current : ModelDeployment) (held : failed current) : SameClaimed row current :=
    held.1
  refine handling.writes failed (handling.works works) (fun current held => ⟨held, rfl⟩)
    (covers_claimed fun _ held => held) fun _ handling => ?_
  refine handling.writes failed (handling.works works) (fun current held => held)
    (covers_claimed claimed) fun _ handling => ?_
  refine handling.writes failed (handling.works works) (fun current held => held)
    (covers_claimed claimed) fun _ handling => ?_
  cases logs.filter Agents.truthy with
  | none => exact failing handling
  | some logs =>
      exact handling.writes failed (handling.works works) (fun current held => held)
        (covers_claimed claimed) fun _ handling => failing handling

end Handling

section Calls

variable {α β : Type} {session : Session} {post : β → Session → Prop}

theorem follows_agent {agentUrl : String} {call : AgentCall}
    {rest : Except AgentFailure (Value call) → DeploymentProgram β}
    (permitted : session.Permits (.agent agentUrl call))
    (next : ∀ reply, Follows (rest reply) session post) :
    Follows (agent agentUrl call >>= rest) session post :=
  follows_perform permitted fun reply _ _ => next reply

theorem follows_node {nodeId : Nat} {rest : Option Node → DeploymentProgram β}
    (next : ∀ node, (∀ found, node = some found → found.id = nodeId) →
      Follows (rest node) session post) :
    Follows (getNode nodeId >>= rest) session post :=
  follows_perform trivial fun node replied _ => next node replied

theorem follows_nodeFor {row : ModelDeployment} {rest : Option Node → DeploymentProgram β}
    (next : ∀ node, (∀ found, node = some found → row.nodeId = some found.id) →
      Follows (rest node) session post) :
    Follows (nodeFor row >>= rest) session post := by
  unfold nodeFor
  cases own : row.nodeId with
  | none => exact next none fun _ found => nomatch found
  | some nodeId =>
      exact follows_node fun node same => next node fun found known => by
        rw [own, same found known]

theorem follows_backendFor {node : Node} {rest : Except String Unit → DeploymentProgram β}
    (next : ∀ result, Follows (rest result) session post) :
    Follows (backendFor node >>= rest) session post := by
  refine follows_agent trivial fun reply => ?_
  cases reply with
  | error failure => exact next _
  | ok value => exact next _

theorem follows_waitUntilHealthy {handle : DeploymentHandle}
    {rest : Except String DeploymentHandle → DeploymentProgram β}
    (next : ∀ result, Follows (rest result) session post) :
    Follows (waitUntilHealthy handle >>= rest) session post := by
  unfold waitUntilHealthy
  cases handle.internalUrl.filter Agents.truthy with
  | none => exact next _
  | some url =>
      refine follows_perform trivial fun reply _ _ => ?_
      cases reply with
      | error message => exact next _
      | ok served => exact next _

theorem follows_fetchLogs {agentUrl containerId : String} {tail : Nat}
    {rest : Except String String → DeploymentProgram β}
    (next : ∀ result, Follows (rest result) session post) :
    Follows (fetchLogs agentUrl containerId tail >>= rest) session post := by
  refine follows_agent trivial fun reply => ?_
  cases reply with
  | error failure => cases failure <;> exact next _
  | ok logs => exact next _

theorem follows_deployModel {settings : Settings} {agentUrl : String}
    {request : DeploymentRequest} {rest : Except String DeploymentHandle → DeploymentProgram β}
    (may : session.MayCreate (containerSpec settings request))
    (next : ∀ result, Follows (rest result) session post) :
    Follows (deployModel settings agentUrl request >>= rest) session post := by
  refine follows_agent may fun reply => ?_
  cases reply with
  | error failure => exact next _
  | ok containerId =>
      refine follows_agent trivial fun reply => ?_
      cases reply with
      | error failure => exact next _
      | ok value => exact next _

theorem follows_restartModel {agentUrl : String} {handle : DeploymentHandle}
    {rest : Except String DeploymentHandle → DeploymentProgram β}
    (next : ∀ result, Follows (rest result) session post) :
    Follows (restartModel agentUrl handle >>= rest) session post := by
  refine follows_agent trivial fun reply => ?_
  cases reply with
  | error failure => exact next _
  | ok value => exact next _

theorem follows_stopModel {agentUrl containerId : String}
    {rest : Except String Unit → DeploymentProgram β} (may : session.MayRemove containerId)
    (next : ∀ result, Follows (rest result) session post) :
    Follows (stopModel agentUrl containerId >>= rest) session post := by
  refine follows_agent trivial fun reply => ?_
  cases reply with
  | error failure => cases failure <;> exact next _
  | ok value =>
      refine follows_agent may fun reply => ?_
      cases reply with
      | error failure => cases failure <;> exact next _
      | ok value => exact next _

theorem follows_orRaise {result : Except String α} {rest : α → DeploymentProgram β}
    (next : ∀ value, Follows (rest value) session post) :
    Follows (orRaise result >>= rest) session post := by
  cases result with
  | error message => exact follows_raise
  | ok value => exact next value

end Calls

section Worker

variable {request : Request} {session : Session} {row : ModelDeployment}
  {waiting : List ModelDeployment} {holds : ModelDeployment → Prop} {excused : Nat → Prop}

/-- What a step of the worker leaves: a deployment done with, or one whose
failure the handler has still to record. -/
def Advanced (request : Request) (row : ModelDeployment) (waiting : List ModelDeployment)
    (result : Except String DeploymentState) (session : Session) : Prop :=
  match result with
  | .ok _ => Settling request waiting session
  | .error _ => Handling request row waiting (SameClaimed row) (fun _ => False) session

theorem Handling.model (handling : Handling request row waiting holds excused session) (id : Nat)
    (reply : Reply (.read (.model id))) :
    Handling request row waiting holds excused (session.after (.read (.model id)) reply) := by
  obtain ⟨same, own, apart, waiting, left, books, deleted, distinct⟩ := handling
  cases reply with
  | none => exact ⟨same, own, apart, waiting, left, books, deleted, distinct⟩
  | some model =>
      exact ⟨same, own, apart, waiting, left, ⟨books.accounts, books.emptied⟩, deleted,
        ⟨distinct.gpus, distinct.allocations, distinct.deployments⟩⟩

theorem follows_failed {α : Type} (handling : Handling request row waiting (SameClaimed row)
    (fun _ => False) session) (works : Works request) (message : String) (logs : Option String)
    {rest : DeploymentState → DeploymentProgram α} {post : α → Session → Prop}
    (next : ∀ final, Settling request waiting final → Follows (rest .failed) final post) :
    Follows (fail row message logs >>= rest) session post := by
  refine follows_bind (follows_fail handling works message logs) ?_
  rintro state final ⟨rfl, settling, _⟩
  exact next final settling

theorem follows_createForDeployment
    (handling : Handling request row waiting (· = row) (fun _ => False) session)
    (ticks : request.action.ticks = true) (alive : row.state.ended = false) (settings : Settings) :
    Follows (createForDeployment settings row) session (Advanced request row waiting) := by
  have works : Works request := .inr ticks
  have claimed (current : ModelDeployment) (held : current = row) : SameClaimed row current := by
    rw [held]
    rfl
  refine follows_perform trivial fun model _ _ => ?_
  have handling := handling.model row.modelId model
  refine follows_nodeFor fun node placed => ?_
  cases model with
  | none =>
      exact follows_failed (handling.weaken claimed) works _ none fun _ settling => settling
  | some model =>
      cases node with
      | none =>
          exact follows_failed (handling.weaken claimed) works _ none fun _ settling => settling
      | some node =>
          refine handling.writes (SameClaimed row) (handling.works works)
            (fun current held => claimed current held) (covers_claimed claimed) fun _ handling => ?_
          have kept : ∀ current, SameClaimed row current → SameClaimed row current :=
            fun _ held => held
          refine follows_backendFor fun connected => ?_
          cases connected with
          | error message => exact handling
          | ok _ =>
              refine follows_deployModel ?_ fun deployed => ?_
              · obtain ⟨own, member, original, _⟩ := handling.own
                refine ⟨by rw [Session.action, handling.request, ticks], own, member,
                  (handling.left own member).1, by rw [Tracked.key, original]; rfl, ?_, ?_⟩
                · rw [original]
                  exact placed node rfl
                · intro indices same
                  simp only [containerSpec] at same
                  split at same
                  · cases same
                  · rw [original]
                    exact (Option.some.inj same).symm
              · cases deployed with
                | error message => exact handling
                | ok handle =>
                    simp only
                    split
                    · exact follows_failed handling works _ none fun _ settling => settling
                    · let going (current : ModelDeployment) : Prop :=
                        SameClaimed row current ∧ current.state = .healthCheck
                      refine handling.writes (SameClaimed row) (handling.works works)
                        (fun _ held => held) (covers_claimed kept) fun _ handling => ?_
                      refine handling.writes (SameClaimed row) (handling.works works)
                        (fun _ held => held) (covers_claimed kept) fun _ handling => ?_
                      refine handling.writes (SameClaimed row) (handling.works works)
                        (fun _ held => held) (covers_claimed kept) fun _ handling => ?_
                      refine handling.writes going (handling.works works)
                        (fun _ held => ⟨held, rfl⟩) (covers_claimed kept) fun _ handling => ?_
                      refine handling.writes going (handling.works works)
                        (fun _ held => held) (covers_claimed fun _ held => held.1)
                        fun _ handling => ?_
                      exact handling.goesOn (fun _ held => held.1)
                        (fun _ held => by rw [held.2]; rfl) (.inl alive)

theorem follows_awaitHealth
    (handling : Handling request row waiting (· = row) (fun _ => False) session)
    (ticks : request.action.ticks = true) (alive : row.state.ended = false) :
    Follows (awaitHealth row) session (Advanced request row waiting) := by
  have works : Works request := .inr ticks
  have handling : Handling request row waiting (SameClaimed row) (fun _ => False) session :=
    handling.weaken fun current held => by rw [held]; rfl
  refine follows_nodeFor fun node _ => ?_
  cases node with
  | none => exact follows_failed handling works _ none fun _ settling => settling
  | some node =>
      refine follows_backendFor fun connected => ?_
      cases connected with
      | error message => exact handling
      | ok _ =>
          refine follows_waitUntilHealthy fun awaited => ?_
          cases awaited with
          | error message => exact handling
          | ok result =>
              simp only
              split
              · let running (current : ModelDeployment) : Prop :=
                  SameClaimed row current ∧ current.state = .running
                refine handling.writes running (handling.works works)
                  (fun _ held => ⟨held, rfl⟩) (covers_claimed fun _ held => held)
                  fun _ handling => ?_
                refine handling.writes running (handling.works works) (fun _ held => held)
                  (covers_claimed fun _ held => held.1) fun _ handling => ?_
                exact handling.goesOn (fun _ held => held.1)
                  (fun _ held => by rw [held.2]; rfl) (.inl alive)
              · refine follows_fetchLogs fun fetched => ?_
                cases fetched with
                | error message => exact handling
                | ok logs =>
                    exact follows_failed handling works _ _ fun _ settling => settling

theorem follows_advance
    (handling : Handling request row waiting (· = row) (fun _ => False) session)
    (ticks : request.action.ticks = true) (pending : row.state.pending = true)
    (settings : Settings) :
    Follows (advance settings row) session (Advanced request row waiting) := by
  have alive : row.state.ended = false := by
    cases state : row.state <;> simp_all [DeploymentState.pending, DeploymentState.ended]
  unfold advance
  cases state : row.state with
  | scheduling | requested => exact follows_createForDeployment handling ticks alive settings
  | creating | starting | healthCheck => exact follows_awaitHealth handling ticks alive
  | validating | running | failed | stopping | stopped =>
      exact handling.goesOn (fun current held => by rw [held]; rfl)
        (fun current held => by rw [held, alive]) (.inl alive)

theorem Handling.recorded
    (handling : Handling request row waiting (SameClaimed row) (fun _ => False) session)
    (distinct : (session.after (.write (.recordFailure row.id)) ()).Distinct) :
    Settling request waiting (session.after (.write (.recordFailure row.id)) ()) := by
  have marked : Handling request row waiting (SameClaimed row) (fun _ => False)
      { session with caught := session.caught ++ [row.id] } := by
    refine ⟨handling.request, handling.own, handling.apart, handling.waiting, ?_,
      ⟨handling.books.accounts, handling.books.emptied⟩, handling.deleted,
      ⟨handling.distinct.gpus, handling.distinct.allocations, handling.distinct.deployments⟩⟩
    intro tracked member
    obtain ⟨loaded, here | clean | leaves⟩ := handling.left tracked member
    · exact ⟨loaded, .inl here⟩
    · exact ⟨loaded, .inr (.inl clean)⟩
    · refine ⟨loaded, .inr (.inr ?_)⟩
      rcases leaves with ⟨ended, free | known⟩ | goes
      · exact .inl ⟨ended, .inl free⟩
      · exact .inl ⟨ended, .inr (List.mem_append_left _ known)⟩
      · exact .inr goes
  have before := @distinct_written _ (.assignDeployment row.id (.errorMessage (some workerFailure)))
    distinct
  have first : Handling request row waiting
      (fun current => SameClaimed row current ∧ current.state = .failed) (fun _ => False) _ :=
    marked.assigned (.state .failed) (fun _ held => ⟨held, rfl⟩)
      (covers_claimed fun _ held => held) before
  have failed : Handling request row waiting
      (fun current => SameClaimed row current ∧ current.state = .failed) (fun _ => False)
      (session.after (.write (.recordFailure row.id)) ()) :=
    first.assigned (.errorMessage (some workerFailure)) (fun _ held => held)
      (covers_claimed fun _ held => held.1) distinct
  obtain ⟨own, member, original, held⟩ := failed.own
  have keyed : own.key = row.id := by rw [Tracked.key, original]
  refine ⟨failed.request, failed.waiting, fun tracked there => ?_, failed.books, failed.deleted,
    failed.distinct⟩
  obtain ⟨loaded, here | clean | leaves⟩ := failed.left tracked there
  · have one := instance_unique failed.distinct there member (here.trans keyed.symm)
    subst one
    refine ⟨loaded, .inr (.inl ⟨by rw [held.2]; rfl, .inr ?_⟩)⟩
    rw [keyed]
    exact List.mem_append_right _ (List.mem_singleton.mpr rfl)
  · exact ⟨loaded, .inl clean⟩
  · exact ⟨loaded, .inr leaves⟩

theorem follows_tickEach (settings : Settings) (rows : List ModelDeployment)
    (settling : Settling request rows session) (ticks : request.action.ticks = true)
    (apart : (rows.map (·.id)).Nodup) (pending : ∀ row ∈ rows, row.state.pending = true) :
    Follows (tickEach settings rows) session fun _ => Settling request [] := by
  induction rows generalizing session with
  | nil => exact settling
  | cons row rest ih =>
      obtain ⟨new, later⟩ := List.nodup_cons.mp apart
      have handling := settling.handle fun other member same =>
        new (List.mem_map.mpr ⟨other, member, same⟩)
      refine follows_bind (follows_advance handling ticks (pending row List.mem_cons_self) settings)
        fun result final advanced => ?_
      have rest := fun {session : Session} (settling : Settling request rest session) =>
        ih settling later fun other member => pending other (List.mem_cons_of_mem _ member)
      cases result with
      | ok state => exact rest advanced
      | error message =>
          have permitted : final.action.ticks = true := by
            rw [Session.action, Handling.request advanced, ticks]
          exact follows_perform permitted fun _ _ distinct =>
            rest (Handling.recorded advanced distinct)

theorem follows_tick (request : Request) (ticks : request.action = .tick) :
    Follows (tick request.settings) (opened request) fun _ => Settling request [] := by
  have works : request.action.ticks = true := by rw [ticks]; rfl
  refine follows_perform works fun rows replied distinct => ?_
  obtain ⟨found, same, pending⟩ := replied
  have rows_eq : List.map Prod.fst rows = found := by
    rw [same]
    exact (List.map_congr_left fun row _ => rfl).trans (List.map_id found)
  have loaded : ((opened request).after (.read .pending) rows).deployments =
      found.map Tracked.load := by
    have own : ((opened request).after (.read .pending) rows).deployments =
        loading (T := deploymentTable) [] (List.map (fun row => row.1) rows) := rfl
    rw [own]
    have rows_eq : List.map (fun row : ModelDeployment × Option Model => row.1) rows = found :=
      rows_eq
    rw [rows_eq]
    simp [loading]
  refine follows_tickEach _ _ ?_ works ?_ ?_
  · refine ⟨rfl, fun row member => ?_, fun tracked member => ?_,
      ⟨fun _ member => (by cases member), fun _ member => by cases member⟩, rfl, distinct⟩
    · rw [rows_eq] at member
      exact ⟨.load row, by rw [loaded]; exact List.mem_map_of_mem member, rfl, rfl⟩
    · rw [loaded] at member
      obtain ⟨row, _, rfl⟩ := List.mem_map.mp member
      exact ⟨rfl, .inl rfl⟩
  · have keys := distinct.deployments
    rw [loaded, List.map_map] at keys
    rw [rows_eq]
    exact keys
  · rw [rows_eq]
    exact pending

end Worker

section Steering

variable {request : Request} {session : Session} {row : ModelDeployment}
  {waiting : List ModelDeployment}

structure Clean (request : Request) (session : Session) : Prop extends Bare request session where
  loaded : ∀ tracked ∈ session.deployments, tracked.inserted = false
  distinct : session.Distinct

theorem Clean.settling (clean : Clean request session) {tracked : Tracked deploymentTable}
    (member : tracked ∈ session.deployments) :
    Settling request [tracked.original] session := by
  refine ⟨clean.request, fun other same => ?_, fun other there => ?_, ⟨?_, ?_⟩, clean.deleted,
    clean.distinct⟩
  · rw [List.mem_singleton.mp same]
    exact ⟨tracked, member, clean.deployments tracked member, rfl⟩
  · exact ⟨clean.loaded other there, .inl (clean.deployments other there)⟩
  · exact fun other there changed => absurd (clean.allocations other there) changed
  · rw [clean.found]
    exact fun _ member => nomatch member

theorem follows_getDeployment (clean : Clean request session)
    (steers : request.action.steers = true) (deploymentId : Nat) :
    Follows (getDeployment deploymentId) session fun row final =>
      Clean request final ∧ row.id = deploymentId ∧
        ∃ tracked ∈ final.deployments, tracked.original = row := by
  refine follows_perform ?_ fun reply replied distinct => ?_
  · rw [Permits, Session.action, clean.request, steers]
  · have bare := clean.toBare.after rfl reply
    cases reply with
    | none => exact follows_raised
    | some row =>
        obtain ⟨base, id, rfl⟩ := replied row rfl
        have member : instanceOf session.deployments base ∈
            [base].map (instanceOf session.deployments) := List.mem_singleton.mpr rfl
        obtain ⟨tracked, there, same⟩ := instance_loading (T := deploymentTable) member
        refine ⟨⟨bare, fun other listed => ?_, distinct⟩, ?_, tracked, there, ?_⟩
        · rcases mem_loading.mp listed with old | ⟨row, _, rfl, _⟩
          · exact clean.loaded other old
          · rfl
        · exact (key_instanceOf (T := deploymentTable) _ _).trans id
        · have untouched := bare.deployments tracked there
          rw [← same, Tracked.row, untouched, Tracked.replay_nil]

theorem follows_stopDeployment (clean : Clean request session)
    (steers : request.action.steers = true) (deploymentId : Nat) :
    Follows (stopDeployment deploymentId) session fun _ final =>
      Settling request [] final ∧ final.LeavesEnded deploymentId := by
  have works : Works request := .inl steers
  refine follows_bind (follows_getDeployment clean steers deploymentId) ?_
  rintro _ final ⟨clean, rfl, tracked, member, rfl⟩
  simp only
  have settling := clean.settling member
  split
  · rename_i ended
    refine ⟨{ settling with waiting := fun _ member => nomatch member }, tracked, member,
      clean.loaded tracked member, rfl, ?_⟩
    rw [Tracked.row, clean.deployments tracked member]
    exact ended
  · let stopping (current : ModelDeployment) : Prop :=
      SameClaimed tracked.original current ∧ current.state = .stopping
    let stopped (current : ModelDeployment) : Prop :=
      current.reservationId = none ∧ current.state = .stopped
    have handling := settling.handle fun _ member => nomatch member
    refine follows_nodeFor fun node _ => ?_
    refine handling.writes stopping (handling.works works) ?_ ?_ fun _ handling => ?_
    · exact fun current held => ⟨by rw [held]; rfl, rfl⟩
    · exact covers_claimed fun current held => by rw [held]; rfl
    · have release {session : Session} (handling : Handling request tracked.original [] stopping
          (fun _ => False) session) :
          Follows (do
            releaseReservation tracked.original
            assign tracked.original.id (.state .stopped)
            assign tracked.original.id (.internalUrl none)) session fun _ final =>
              Settling request [] final ∧ final.LeavesEnded tracked.original.id := by
        refine follows_bind (follows_releaseReservation (· = .stopping) handling works)
          fun _ _ handling => ?_
        refine handling.writes stopped (handling.works works) (fun _ held => ⟨held.1, rfl⟩)
          (fun _ _ _ own _ => own) fun _ handling => ?_
        refine follows_mono (handling.writesLast stopped (handling.works works)
          (fun _ held => held) fun _ _ _ own _ => own) fun _ _ handling => ?_
        exact handling.ends (fun _ held => held.1) (fun _ held => by rw [held.2]; rfl)
          fun _ own => own
      have never (containerId : String) {session : Session}
          (handling : Handling request tracked.original [] stopping (fun _ => False) session) :
          session.MayRemove containerId := by
        intro remove reconciles
        rw [Session.action, handling.request] at reconciles
        rw [reconciles] at steers
        cases steers
      cases node with
      | none => exact release handling
      | some node =>
          cases tracked.original.containerId.filter Agents.truthy with
          | none => exact release handling
          | some containerId =>
              simp only [Program.bind_assoc]
              refine follows_backendFor fun connected => ?_
              refine follows_orRaise fun _ => ?_
              refine follows_stopModel (never containerId handling) fun stopped => ?_
              exact follows_orRaise fun _ => release handling

theorem follows_restartDeployment (clean : Clean request session) (deploymentId : Nat)
    (restarts : request.action = .restart deploymentId) :
    Follows (restartDeployment deploymentId) session fun _ => Settling request [] := by
  have steers : request.action.steers = true := by rw [restarts]; rfl
  have works : Works request := .inl steers
  refine follows_bind (follows_getDeployment clean steers deploymentId) ?_
  rintro _ final ⟨clean, rfl, tracked, member, rfl⟩
  have handling := (clean.settling member).handle fun _ member => nomatch member
  have claimed : ∀ current, current = tracked.original →
      SameClaimed tracked.original current := fun current held => by rw [held]; rfl
  refine follows_nodeFor fun node _ => ?_
  cases node with
  | none => exact follows_raised
  | some node =>
      cases tracked.original.containerId.filter Agents.truthy with
      | none => exact follows_raised
      | some containerId =>
          simp only [Program.bind_assoc]
          refine follows_backendFor fun connected => ?_
          refine follows_orRaise fun _ => ?_
          refine follows_restartModel fun restarted => ?_
          refine follows_orRaise fun result => ?_
          split
          · exact follows_failed (handling.weaken claimed) works _ none fun _ settling => settling
          · let waiting (current : ModelDeployment) : Prop :=
              SameClaimed tracked.original current ∧ current.state = .healthCheck
            refine handling.writes waiting (handling.works works)
              (fun current held => ⟨claimed current held, rfl⟩) (covers_claimed claimed)
              fun _ handling => ?_
            refine follows_mono (handling.writesLast waiting (handling.works works)
              (fun _ held => held) (covers_claimed fun _ held => held.1)) fun _ _ handling => ?_
            exact handling.goesOn (fun _ held => held.1) (fun _ held => by rw [held.2]; rfl)
              (.inr (by rw [restarts]; rfl))

theorem Settling.finished (settling : Settling request [] session)
    (other : request.action.books = false) : session.Finished := by
  constructor
  · exact fun tracked member _ => (settling.left tracked member).2
  · intro tracked member changed
    obtain ⟨entry, found, listed, cause⟩ := settling.books.accounts tracked member changed
    exact ⟨entry, found, listed, .inr (cause.resolve_left id)⟩
  · intro entry member id listed
    exact (settling.books.emptied entry member id listed).resolve_left List.not_mem_nil
  · rw [settling.deleted]
    exact fun _ member => nomatch member
  · intro reservation release
    rw [← settling.request] at other
    change session.action.books = false at other
    rw [release] at other
    cases other
  · intro nodeId gpuIndices purpose reservedBy reserves
    rw [← settling.request] at other
    change session.action.books = false at other
    rw [reserves] at other
    cases other

theorem follows_deleteEnded (settling : Settling request [] session) {deploymentId : Nat}
    (deletes : request.action = .delete deploymentId) {id : Nat} (ended : session.LeavesEnded id) :
    Follows (write (.deleteDeployment id)) session fun _ => Finished := by
  have finished := settling.finished (by rw [deletes]; rfl)
  refine follows_last ⟨⟨deploymentId, ?_⟩, ended⟩ fun _ _ _ => ?_
  · rw [Session.action, settling.request, deletes]
  · refine ⟨finished.left, finished.released, finished.emptied, fun other member => ?_,
      finished.looked, finished.took⟩
    rcases List.mem_append.mp member with old | new
    · exact finished.deleted other old
    · rw [List.mem_singleton.mp new]
      exact ended

theorem Settling.read (settling : Settling request [] session) (deploymentId : Nat)
    (reply : Reply (.read (.deployment deploymentId)))
    (distinct : (session.after (.read (.deployment deploymentId)) reply).Distinct) :
    Settling request [] (session.after (.read (.deployment deploymentId)) reply) := by
  cases reply with
  | none => exact settling
  | some row =>
      refine ⟨settling.request, fun _ member => (nomatch member), fun tracked member => ?_,
        ⟨fun tracked member changed => ?_, settling.books.emptied⟩, settling.deleted, distinct⟩
      · rcases mem_loading.mp member with old | ⟨row, _, rfl, _⟩
        · exact settling.left tracked old
        · exact ⟨rfl, .inl rfl⟩
      · obtain ⟨entry, found, listed, cause⟩ := settling.books.accounts tracked member changed
        refine ⟨entry, found, listed, cause.imp id ?_⟩
        rintro ⟨other, there, vacates⟩
        exact ⟨other, mem_loading.mpr (.inl there), vacates⟩

theorem LeavesEnded.read {id deploymentId : Nat} (ended : session.LeavesEnded id)
    (reply : Reply (.read (.deployment deploymentId))) :
    (session.after (.read (.deployment deploymentId)) reply).LeavesEnded id := by
  obtain ⟨tracked, there, leaves⟩ := ended
  cases reply with
  | none => exact ⟨tracked, there, leaves⟩
  | some row => exact ⟨tracked, mem_loading.mpr (.inl there), leaves⟩

theorem follows_getAgain (settling : Settling request [] session)
    (steers : request.action.steers = true) {deploymentId : Nat}
    (ended : session.LeavesEnded deploymentId) :
    Follows (getDeployment deploymentId) session fun row final =>
      Settling request [] final ∧ final.LeavesEnded row.id := by
  refine follows_perform ?_ fun reply replied distinct => ?_
  · rw [Permits, Session.action, settling.request, steers]
  · have settling := settling.read deploymentId reply distinct
    have ended := LeavesEnded.read ended reply
    cases reply with
    | none => exact follows_raised
    | some row =>
        obtain ⟨base, same, rfl⟩ := replied row rfl
        have keyed : ModelDeployment.id (instanceOf (T := deploymentTable) session.deployments base) =
            deploymentId := (key_instanceOf (T := deploymentTable) _ _).trans same
        refine ⟨settling, ?_⟩
        rw [keyed]
        exact ended

theorem follows_deleteDeployment (clean : Clean request session) (deploymentId : Nat)
    (deletes : request.action = .delete deploymentId) :
    Follows (deleteDeployment deploymentId) session fun _ => Finished := by
  have steers : request.action.steers = true := by rw [deletes]; rfl
  refine follows_bind (follows_getDeployment clean steers deploymentId) ?_
  rintro _ final ⟨clean, id, tracked, member, rfl⟩
  split
  · rename_i ended
    have settling : Settling request [] final :=
      { clean.settling member with waiting := fun _ member => nomatch member }
    refine follows_deleteEnded settling deletes ⟨tracked, member, clean.loaded tracked member,
      rfl, ?_⟩
    rw [Tracked.row, clean.deployments tracked member]
    exact ended
  · refine follows_bind (follows_stopDeployment clean steers deploymentId) ?_
    rintro _ final ⟨settling, ended⟩
    refine follows_bind (follows_getAgain settling steers ended) ?_
    rintro row final ⟨settling, ended⟩
    exact follows_deleteEnded settling deletes ended

end Steering

theorem bare_clean (request : Request) : Clean request (opened request) :=
  ⟨bare_opened request, fun _ member => (nomatch member),
    ⟨List.nodup_nil, List.nodup_nil, List.nodup_nil⟩⟩

theorem follows_released {request : Request} {reservation : Nat}
    (releases : request.action = .release reservation) :
    Follows (release reservation) (opened request) fun _ => Finished := by
  have books : Books (· = reservation) [] (opened request) :=
    ⟨fun _ member => (nomatch member), fun _ member => nomatch member⟩
  refine follows_mono (follows_release books rfl (.inl releases)) ?_
  rintro _ final ⟨books, distinct, ⟨allocations, found, rfl⟩, entry, listed, keyed⟩
  refine ⟨fun _ member => (nomatch member), fun tracked member changed => ?_, fun entry member id known => ?_,
    fun _ member => (nomatch member), fun other same => ?_, fun _ _ _ _ same => ?_⟩
  · obtain ⟨entry, own, known, cause⟩ := books.accounts tracked member changed
    refine ⟨entry, own, known, cause.imp (fun same => ?_) id⟩
    rw [same]
    exact releases
  · exact (books.emptied entry member id known).resolve_left List.not_mem_nil
  · have one : Action.release reservation = .release other := releases.symm.trans same
    cases one
    exact ⟨entry, listed, keyed⟩
  · exact nomatch releases.symm.trans same

theorem follows_run (request : Request) :
    Follows (run request) (opened request) fun _ => Finished := by
  have bare := bare_opened request
  unfold run
  cases action : request.action with
  | deploy spec actor =>
      refine follows_bind (follows_requestDeployment bare spec actor action request.settings)
        fun _ _ idle => ?_
      exact idle.ended (by rw [action]; rfl)
  | stop deploymentId =>
      refine follows_mono (follows_stopDeployment (bare_clean request) (by rw [action]; rfl)
        deploymentId) fun _ _ settled => ?_
      exact settled.1.finished (by rw [action]; rfl)
  | restart deploymentId =>
      refine follows_mono (follows_restartDeployment (bare_clean request) deploymentId action)
        fun _ _ settled => ?_
      exact settled.finished (by rw [action]; rfl)
  | delete deploymentId => exact follows_deleteDeployment (bare_clean request) deploymentId action
  | reconcile remove =>
      refine follows_bind (follows_reconcileOrphans bare rfl remove action) fun _ _ bare => ?_
      exact bare.ended (by rw [action]; rfl)
  | tick =>
      refine follows_mono (follows_tick request action) fun _ _ settled => ?_
      exact settled.finished (by rw [action]; rfl)
  | reserve nodeId gpuIndices purpose reservedBy =>
      refine follows_bind (follows_reserve bare (by rw [action]; rfl) nodeId gpuIndices purpose _)
        fun _ _ claimed => ?_
      refine claimed.1.finished (fun _ same => nomatch action.symm.trans same) ?_
      intro _ _ _ _ same
      cases action.symm.trans same
      exact ⟨claimed.2.1, _, claimed.2.2⟩
  | release reservation =>
      exact follows_bind (follows_released action) fun _ _ finished => finished
  | registerNode name agentUrl =>
      refine follows_mono (follows_registerNode bare (by rw [action]; rfl) name agentUrl)
        fun _ _ bare => ?_
      exact bare.ended (by rw [action]; rfl)
  | deleteNode nodeId =>
      refine follows_mono (follows_deleteNode bare nodeId action) fun _ _ bare => ?_
      exact bare.ended (by rw [action]; rfl)
  | syncNode nodeId =>
      refine follows_mono (follows_checkNode bare (by rw [action]; rfl) nodeId) fun _ _ bare => ?_
      exact bare.ended (by rw [action]; rfl)
  | syncNodes =>
      refine follows_bind (bare.last trivial rfl) fun nodes _ bare => ?_
      refine follows_mono (follows_syncEach bare (by rw [action]; rfl) nodes) fun _ _ bare => ?_
      exact bare.ended (by rw [action]; rfl)

def discipline : Discipline deploymentMachine where
  allowed session op := session.Distinct → session.Permits op
  trusted := Replied
  settled _ := True
  finished session := session.Distinct → session.Finished
  react_trusted _ _ _ _ _ _ _ reacts := replied reacts
  awaits_settled _ _ _ awaits := nomatch awaits
  program_follows request := by
    refine Protocol.follows_mono _ (Protocol.follows_guarded (P := duty) ?_ fun _ =>
      follows_run request) fun _ _ finished => ⟨trivial, finished⟩
    exact fun session op reply distinct => distinct_before distinct

end AiPlatform.Deployments
