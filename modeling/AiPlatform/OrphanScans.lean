import AiPlatform.StoppedDeployments

/-!
Orphan scans. A scan takes the container ids that the stored deployments record
and asks the nodes afterwards, so a container that the worker has created and
not yet committed looks like one that nobody claims.
-/

namespace AiPlatform.Deployments

def Session.removes (session : Session) : Bool :=
  match session.action with
  | .reconcile true => true
  | _ => false

def Session.ScansFrom (session : Session) (rows : List ModelDeployment) : Prop :=
  session.removes = true ∧ session.scanned = some rows

/-- The row is what `reconcile_orphans` knows the container by. -/
def Records (row : ModelDeployment) (container : Hosts.Container ContainerSpec) : Prop :=
  row.containerId.filter Agents.truthy = some container.id

def AllRecorded (shared : Shared) : Prop :=
  ∀ container ∈ shared.fleet.containers, ∀ row ∈ shared.deployments,
    row.id = container.spec.deploymentId → row.state.ended = false → Records row container

/-- The commit makes no STOPPED or FAILED deployment live again one of whose
containers the scan does not know. -/
def RevivesKnown (shared : Shared) (session : Session) (rows : List ModelDeployment) : Prop :=
  ∀ row ∈ shared.deployments, row.state.ended = true →
    (Tracked.update (T := deploymentTable) session.deployments row : ModelDeployment).state.ended =
      false →
    ∀ container ∈ shared.fleet.containers, container.spec.deploymentId = row.id →
      claimedBy (knownIds rows) container.id = true

/-- A scan that removes starts when the containers are recorded, and while it
goes on no container is created and no deployment with a container unknown to it
comes back. -/
def ScansUndisturbed (system : DeploymentSystem) : DeploymentLabel → Prop
  | .perform i _ =>
      (∀ scan, System.Performing system i (.read .deployments) scan → scan.removes = true →
        AllRecorded system.shared) ∧
      ∀ url spec creator, System.Performing system i (.agent url (.command (.create spec))) creator →
        ∀ j scan rows, System.Live system j scan → ¬scan.ScansFrom rows
  | .commit i => ∀ session, System.Live system i session → ∀ j scan rows,
      System.Live system j scan → scan.ScansFrom rows →
        RevivesKnown system.shared session rows
  | _ => True

/-- What the scan does not know belongs to no deployment that is neither STOPPED nor FAILED. -/
def Spares (shared : Shared) (rows : List ModelDeployment) : Prop :=
  ∀ container ∈ shared.fleet.containers, claimedBy (knownIds rows) container.id = false →
    ∀ row ∈ shared.deployments, row.id = container.spec.deploymentId → row.state.ended = true

theorem claimed_of_records {rows : List ModelDeployment} {row : ModelDeployment}
    {container : Hosts.Container ContainerSpec} (member : row ∈ rows)
    (records : Records row container) : claimedBy (knownIds rows) container.id = true := by
  have known : container.id ∈ knownIds rows := by
    refine List.mem_flatMap.mpr ⟨container.id, List.mem_filterMap.mpr ⟨row, member, records⟩, ?_⟩
    exact List.mem_cons_self
  simp [claimedBy, known]

theorem removes_reconcile {session : Session} (removes : session.removes = true) :
    session.action = .reconcile true := by
  unfold Session.removes at removes
  split at removes
  · assumption
  · cases removes

section Scans

variable {i : Nat} {session : Session} {shared next : Shared} {op : Op} {reply : Reply op}

theorem scanned_after (permitted : session.Permits op)
    (reacts : Reaction i session shared op reply next) :
    (session.after op reply).scanned = session.scanned ∨
      (op = .read .deployments ∧ (session.after op reply).scanned = some shared.deployments) := by
  cases reacts with
  | read query =>
      cases query with
      | deployments =>
          refine .inr ⟨rfl, ?_⟩
          have rows : shared.rows session .deployments = shared.deployments := by
            simp only [Shared.rows, Shared.deploymentsSeen, permitted.2]
            exact (List.map_congr_left fun row _ => rfl).trans
              ((List.map_id _).trans (List.append_nil _))
          exact congrArg some rows
      | model id =>
          simp only [Session.after, Shared.rows]
          cases shared.findModel session id <;> exact .inl rfl
      | gpuByUuid uuid =>
          simp only [Session.after, Shared.rows]
          cases (shared.gpusSeen session).find? fun gpu => gpu.uuid = uuid <;> exact .inl rfl
      | deployment id =>
          simp only [Session.after, Shared.rows]
          cases (shared.deploymentsSeen session).find? fun row => row.id = id <;> exact .inl rfl
      | node id | nodeNamed name | nodes limit | pollable | gpusOf nodeId | activeOn nodeId
      | reservation id | pending => exact .inl rfl
  | write write => cases write <;> exact .inl rfl
  | insert draft => cases draft <;> exact .inl rfl
  | telemetry | refused | claimed | flush | called | serving => exact .inl rfl

end Scans

section Runs

structure Known (system : DeploymentSystem) : Prop extends Sound system where
  containers : ∀ container ∈ system.shared.fleet.containers,
    Settled system container.spec.deploymentId

def spared : Invariant discipline ScansUndisturbed Known where
  shared _ := True
  session _ session shared := ∀ rows, session.ScansFrom rows → Spares shared rows
  begins _ _ _ _ _ _ _ scans := nomatch scans.2
  performs system i answer op session reply after known meets performing _ _ own reacts := by
    obtain ⟨rest, found⟩ := id performing
    have transition : System.Transition system (.perform i answer) (System.put system i
        ⟨rest reply, session.after op reply, .running⟩ after) :=
      .perform i answer op rest session reply after found reacts
    have reaction := reaction reacts
    -- A container that an operation adds is one that it creates.
    have kept {j : Nat} {scan : Session} (live : System.Live system j scan)
        {rows : List ModelDeployment} (scans : scan.ScansFrom rows)
        (spares : Spares system.shared rows) : Spares after rows := by
      intro container present unclaimed row stored keyed
      rw [reaction.untouched.deployments] at stored
      cases came transition container present with
      | survived old listed survives =>
          rw [survives.2.2] at keyed
          rw [survives.1] at unclaimed
          exact spares old listed unclaimed row stored keyed
      | created k other creator performed performing fresh =>
          cases performed
          exact absurd scans (meets.2 _ _ _ performing j scan rows live)
    refine ⟨trivial, fun rows scans => ?_, fun j other _ live spares rows scans =>
      kept live scans (spares rows scans)⟩
    have removes : session.removes = true :=
      (congrArg (fun action => match action with | Action.reconcile true => true | _ => false)
        (after_action op reply)).symm.trans scans.1
    rcases scanned_after (known.permits performing) reaction with same | ⟨rfl, started⟩
    · have scans : session.ScansFrom rows := ⟨removes, same.symm.trans scans.2⟩
      exact kept performing.live scans (own rows scans)
    · have rows_eq : rows = system.shared.deployments :=
        Option.some.inj (scans.2.symm.trans started)
      subst rows_eq
      have recorded := meets.1 session performing removes
      cases reaction
      intro container present unclaimed row stored keyed
      cases ended : row.state.ended with
      | true => rfl
      | false =>
          have claimed := claimed_of_records stored (recorded container present row stored keyed ended)
          rw [claimed] at unclaimed
          cases unclaimed
  commits system i committer after known meets ending _ _ _ commits := by
    refine ⟨trivial, fun j scan _ live spares rows scans => ?_⟩
    obtain ⟨_, _, rfl⟩ := commit_some commits
    intro container present unclaimed row stored keyed
    rcases (mem_deploymentsAfter stored).2.2 with ⟨old, before, same, rfl⟩ | own
    · have ended := spares rows scans container present unclaimed old before (same.symm.trans keyed)
      cases alive : (Tracked.update (T := deploymentTable) committer.deployments old :
          ModelDeployment).state.ended with
      | true => rfl
      | false =>
          have claimed := meets committer ending.live j scan rows live scans old before ended alive
            container present (keyed.symm.trans same)
          rw [claimed] at unclaimed
          cases unclaimed
    · have settled := known.containers container present
      rw [← keyed] at settled
      exact absurd (mem_drawn_deployment own) (settled.unclaimed i committer ending.live)
  aborts _ _ _ _ _ _ _ _ := ⟨trivial, fun _ _ _ _ spares => spares⟩
  changes system edit known _ _ := by
    refine ⟨trivial, fun _ _ _ spares rows scans container present unclaimed row stored => ?_⟩
    have spares := spares rows scans
    cases edit with
    | model model => exact spares container present unclaimed row stored
    | lost id => exact spares container (List.mem_of_mem_filter present) unclaimed row stored
    | switched host id running =>
        obtain ⟨old, listed, survives⟩ := Hosts.Fleet.survives_setRunning present
        rw [survives.2.2]
        rw [survives.1] at unclaimed
        exact spares old listed unclaimed row stored

theorem known_reached {ok : DeploymentSystem → DeploymentLabel → Prop} (system : DeploymentSystem)
    (reached : System.Reaches ok start system) : Known system :=
  ⟨sound_reached system reached, container_settled system reached⟩

/-- In every run whose scans are undisturbed, a scan removes no container of a
deployment that is stored and neither STOPPED nor FAILED. -/
theorem scan_spares_live (system : DeploymentSystem)
    (reached : System.Reaches ScansUndisturbed start system) (i : Nat) (session : Session)
    (url containerId : String) (remove : Bool)
    (performing : System.Performing system i (.agent url (.command (.remove containerId))) session)
    (scan : session.action = .reconcile remove) :
    ∀ container ∈ system.shared.fleet.containers, container.id = containerId →
      ∀ row ∈ system.shared.deployments, row.id = container.spec.deploymentId →
        row.state.ended = true := by
  intro container present same
  have known := known_reached system reached
  obtain ⟨removes, rows, scanned, unclaimed⟩ := known.permits performing remove scan
  have holds := spared.reached (fun _ => rfl) trivial (fun system => known_reached system) system
    reached
  have scans : session.ScansFrom rows := by
    refine ⟨?_, scanned⟩
    rw [Session.removes, scan, removes]
  rw [← same] at unclaimed
  exact holds.2 i session performing.live rows scans container present unclaimed

end Runs

def unscanned (system : DeploymentSystem) : Bool :=
  (List.range 5).all fun j => (System.session? system j).all fun scan =>
    !scan.removes || scan.scanned.isNone

/-- Whether a label meets the condition, when all processes are below five. A
scan is taken to start only when all deployments with containers have ended. -/
def scansUndisturbed (system : DeploymentSystem) : DeploymentLabel → Bool
  | .perform i _ =>
      match System.op? system i with
      | some (.read .deployments) => system.shared.fleet.containers.all fun container =>
          system.shared.deployments.all fun row =>
            row.id ≠ container.spec.deploymentId || row.state.ended
      | some (.agent _ (.command (.create _))) => unscanned system
      | _ => true
  | .commit _ => unscanned system
  | _ => true

theorem not_scanning {system : DeploymentSystem} (below : System.Below 5 system)
    (none : unscanned system = true) {j : Nat} {scan : Session} {rows : List ModelDeployment}
    (live : System.Live system j scan) : ¬scan.ScansFrom rows := by
  rintro ⟨removes, scanned⟩
  simp only [unscanned, List.all_eq_true, List.mem_range] at none
  have checked := none j (below.live live)
  rw [live.session?] at checked
  change (!scan.removes || scan.scanned.isNone) = true at checked
  rw [removes, scanned] at checked
  cases checked

theorem scansUndisturbed_of (system : DeploymentSystem) (label : DeploymentLabel)
    (below : System.Below 5 system) (meets : scansUndisturbed system label = true) :
    ScansUndisturbed system label := by
  cases label with
  | perform i answer =>
      refine ⟨fun scan performing _ => ?_, fun url spec creator performing j scan rows live => ?_⟩
      · simp only [scansUndisturbed, performing.op?, List.all_eq_true] at meets
        intro container present row stored keyed alive
        have ended := meets container present row stored
        simp [keyed, alive] at ended
      · simp only [scansUndisturbed, performing.op?] at meets
        exact not_scanning below meets live
  | commit i =>
      intro session _ j scan rows live scans
      exact absurd scans (not_scanning below meets live)
  | begin i request | stop i | abort i | change edit => trivial

def failsToStart (i : Nat) (containerId : String) : List DeploymentLabel :=
  quiet i 3 ++ [calls i .nothing [], calls i (.created containerId) [],
    .perform i (.agent .nothing (some (.error "no such image")) ⟨"", false, ⟨false, []⟩⟩)] ++
      quiet i 3

def scans (i : Nat) : List DeploymentLabel :=
  [.begin i ⟨policy, .reconcile true⟩] ++ quiet i 2 ++ [calls i .nothing [], calls i .nothing []]

def removing (system : DeploymentSystem) (i : Nat) (containerId : String) : Bool :=
  match System.op? system i with
  | some (.agent _ (.command (.remove id))) => id = containerId
  | _ => false

theorem performing_of_removing {system : DeploymentSystem} {i : Nat} {containerId : String}
    (found : removing system i containerId = true) :
    ∃ url session, System.Performing system i (.agent url (.command (.remove containerId)))
      session := by
  unfold removing at found
  split at found
  · rename_i url id at_op
    obtain ⟨session, performing⟩ := System.performing_of_op? at_op
    rw [of_decide_eq_true found] at performing
    exact ⟨url, session, performing⟩
  · cases found

/-- The container of a deployment that failed is removed. -/
theorem scan_spares_live_failed : ∃ system : DeploymentSystem, ∃ url session,
    ∃ container ∈ system.shared.fleet.containers,
      System.Performing system 3 (.agent url (.command (.remove container.id))) session ∧
        ∀ row ∈ system.shared.deployments, row.id = container.spec.deploymentId →
          row.state.ended = true := by
  obtain ⟨system, reached, checked⟩ := reached_below 5 scansUndisturbed
    ([.change (.model servedModel)] ++ registers 0 [] ++ deploysMock 1 ++ ticks 2 ++
      failsToStart 2 "c1" ++ [.commit 2] ++ scans 3)
    (fun system => removing system 3 "c1" && (System.session? system 3).any (·.removes) &&
      system.shared.fleet.containers.any fun container => container.id = "c1")
    scansUndisturbed_of (by decide +kernel)
  simp only [Bool.and_eq_true, List.any_eq_true, decide_eq_true_eq] at checked
  obtain ⟨⟨at_removal, own⟩, container, present, named⟩ := checked
  obtain ⟨url, session, performing⟩ := performing_of_removing at_removal
  rw [performing.live.session?] at own
  rw [← named] at performing
  exact ⟨system, url, session, container, present, performing,
    scan_spares_live system reached 3 session url container.id true performing
      (removes_reconcile own) container present rfl⟩

/-- The pass has created the container and not committed it when the scan reads
the rows: the scan removes the container of a deployment that is being brought up. -/
theorem scan_removes_live : ∃ system : DeploymentSystem, ∃ url session,
    System.Reaches anyStep start system ∧ session.action = .reconcile true ∧
      ∃ container ∈ system.shared.fleet.containers,
        System.Performing system 3 (.agent url (.command (.remove container.id))) session ∧
          ∃ row ∈ system.shared.deployments, row.id = container.spec.deploymentId ∧
            row.state.ended = false := by
  obtain ⟨system, reached, checked⟩ := reached_checked
    ([.change (.model servedModel)] ++ registers 0 [] ++ deploysMock 1 ++ ticks 2 ++
      creates 2 "c1" ++ scans 3)
    (fun system => removing system 3 "c1" && (System.session? system 3).any (·.removes) &&
      system.shared.fleet.containers.any fun container => container.id = "c1" &&
        system.shared.deployments.any fun row => row.id = container.spec.deploymentId &&
          !row.state.ended)
    (by decide +kernel)
  simp only [Bool.and_eq_true, List.any_eq_true, decide_eq_true_eq, Bool.not_eq_true'] at checked
  obtain ⟨⟨at_removal, own⟩, container, present, named, row, stored, same, alive⟩ := checked
  obtain ⟨url, session, performing⟩ := performing_of_removing at_removal
  rw [performing.live.session?] at own
  rw [← named] at performing
  exact ⟨system, url, session, reached, removes_reconcile own, container, present, performing, row,
    stored, same, alive⟩

end AiPlatform.Deployments
