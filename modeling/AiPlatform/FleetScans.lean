import AiPlatform.Conversations
import AiPlatform.OrphanScans
import AiPlatform.SoloDeployments

/-!
The coverage of an orphan scan. A scan reads the registered nodes a page at a
time and takes the first page only, so what it says about the fleet is about the
nodes of that page.
-/

namespace AiPlatform.Deployments

theorem bracketed_inj {left right leftEnd rightEnd : List Char} (first : '(' ∉ leftEnd)
    (second : '(' ∉ rightEnd)
    (same : left ++ ' ' :: '(' :: leftEnd = right ++ ' ' :: '(' :: rightEnd) : left = right := by
  have shorter : ∀ {middle tail rest : List Char}, '(' ∉ tail →
      ' ' :: '(' :: tail = middle ++ ' ' :: '(' :: rest → middle = [] := by
    intro middle tail rest absent same
    match middle with
    | [] => rfl
    | [_] => simp at same
    | _ :: _ :: others =>
        simp only [List.cons_append, List.cons.injEq] at same
        rw [same.2.2] at absent
        simp at absent
  rcases List.append_eq_append_iff.mp same with ⟨middle, rfl, tails⟩ | ⟨middle, rfl, tails⟩
  · rw [shorter first tails, List.append_nil]
  · rw [shorter second tails, List.append_nil]

/-- The entries of `last_unscanned_nodes` for a node. -/
def unscannedEntries (node : Node) : List String :=
  [s!"{node.name} ({node.status.text})", s!"{node.name} (unreachable)"]

theorem unscannedEntries_shape {node : Node} {entry : String}
    (member : entry ∈ unscannedEntries node) :
    ∃ tail, '(' ∉ tail ∧ entry.toList = node.name.toList ++ ' ' :: '(' :: tail := by
  have listed : entry = s!"{node.name} ({node.status.text})" ∨
      entry = s!"{node.name} (unreachable)" := by
    simpa [unscannedEntries] using member
  rcases listed with rfl | rfl
  · refine ⟨node.status.text.toList ++ [')'], ?_, by simp [toString]⟩
    cases node.status <;> decide
  · exact ⟨"unreachable)".toList, by decide, by simp [toString]⟩

theorem unscannedEntries_name {node other : Node} {entry : String}
    (member : entry ∈ unscannedEntries node) (also : entry ∈ unscannedEntries other) :
    node.name = other.name := by
  obtain ⟨_, absent, shape⟩ := unscannedEntries_shape member
  obtain ⟨_, missing, other'⟩ := unscannedEntries_shape also
  exact String.toList_inj.mp (bracketed_inj absent missing (shape.symm.trans other'))

abbrev Talk := List (Exchange deploymentSignature)

def listing (agentUrl : String) (containers : List (Hosts.Container ContainerSpec)) :
    Exchange deploymentSignature :=
  ⟨.agent agentUrl .list, Except.ok containers⟩

theorem listing_inj {url other : String} {containers others : List (Hosts.Container ContainerSpec)} :
    listing url containers = listing other others ↔ url = other ∧ containers = others := by
  constructor
  · intro same
    cases same
    exact ⟨rfl, rfl⟩
  · rintro ⟨rfl, rfl⟩
    rfl

theorem listing_ne {url : String} {containers : List (Hosts.Container ContainerSpec)}
    {exchange : Exchange deploymentSignature} (other : exchange.op ≠ .agent url .list) :
    listing url containers ≠ exchange :=
  fun same => other (congrArg Exchange.op same).symm

def Reported (orphans : List Orphan) (container : Hosts.Container ContainerSpec) : Prop :=
  ∃ orphan ∈ orphans, orphan.containerId = Agents.clip container.id 12 ∧
    orphan.name = container.spec.name

def Compared (talk : Talk) (orphans : List Orphan) (node : Node) : Prop :=
  ∃ rows containers, ⟨.read .deployments, rows⟩ ∈ talk ∧ listing node.agentUrl containers ∈ talk ∧
    ∀ container ∈ containers,
      claimedBy (knownIds rows) container.id = true ∨ Reported orphans container

def Named (unscanned : List String) (node : Node) : Prop :=
  ∃ entry ∈ unscannedEntries node, entry ∈ unscanned

structure Scans (known : List String) (nodes : List Node) (talk : Talk) (orphans : List Orphan)
    (unscanned : List String) : Prop where
  covered : ∀ node ∈ nodes, Named unscanned node ∨
    node.status = .online ∧ ∃ containers, listing node.agentUrl containers ∈ talk
  named : ∀ entry ∈ unscanned, ∃ node ∈ nodes, entry ∈ unscannedEntries node
  listed : ∀ url containers, listing url containers ∈ talk →
    (∃ node ∈ nodes, node.status = .online ∧ node.agentUrl = url) ∧
      ∀ container ∈ containers,
        claimedBy known container.id = true ∨ Reported orphans container

section Scans

variable {node : Node} {nodes : List Node} {known : List String} {talk : Talk}
  {orphans : List Orphan} {unscanned : List String}

theorem Scans.skip {before : Talk} {entry : String} (scans : Scans known nodes talk orphans unscanned)
    (named : entry ∈ unscannedEntries node)
    (silent : ∀ url containers, listing url containers ∉ before) :
    Scans known (node :: nodes) (before ++ talk) orphans (entry :: unscanned) := by
  constructor
  · refine List.forall_mem_cons.mpr ⟨.inl ⟨entry, named, .head _⟩, fun other member => ?_⟩
    refine (scans.covered other member).imp ?_ ?_
    · rintro ⟨other, own, listed⟩
      exact ⟨other, own, .tail _ listed⟩
    · rintro ⟨online, containers, listed⟩
      exact ⟨online, containers, List.mem_append_right _ listed⟩
  · refine List.forall_mem_cons.mpr ⟨⟨node, .head _, named⟩, fun other member => ?_⟩
    obtain ⟨owner, present, own⟩ := scans.named other member
    exact ⟨owner, .tail _ present, own⟩
  · intro url containers listed
    have later := (List.mem_append.mp listed).resolve_left (silent url containers)
    obtain ⟨⟨owner, present, online⟩, compared⟩ := scans.listed url containers later
    exact ⟨⟨owner, .tail _ present, online⟩, compared⟩

theorem Scans.visit {before : Talk} {found : List Orphan}
    {containers : List (Hosts.Container ContainerSpec)}
    (scans : Scans known nodes talk orphans unscanned) (online : node.status = .online)
    (lists : ∀ url others,
      listing url others ∈ before ↔ url = node.agentUrl ∧ some containers = some others)
    (compared : ∀ container ∈ containers,
      claimedBy known container.id = true ∨ Reported found container) :
    Scans known (node :: nodes) (before ++ talk) (found ++ orphans) unscanned := by
  have reports {container : Hosts.Container ContainerSpec} {part whole : List Orphan}
      (within : ∀ orphan ∈ part, orphan ∈ whole)
      (either : claimedBy known container.id = true ∨ Reported part container) :
      claimedBy known container.id = true ∨ Reported whole container := by
    refine either.imp_right ?_
    rintro ⟨orphan, member, same⟩
    exact ⟨orphan, within orphan member, same⟩
  constructor
  · refine List.forall_mem_cons.mpr ⟨.inr ⟨online, containers, ?_⟩, fun other member => ?_⟩
    · exact List.mem_append_left _ ((lists _ _).mpr ⟨rfl, rfl⟩)
    · refine (scans.covered other member).imp_right ?_
      rintro ⟨online, others, listed⟩
      exact ⟨online, others, List.mem_append_right _ listed⟩
  · intro entry member
    obtain ⟨owner, present, own⟩ := scans.named entry member
    exact ⟨owner, .tail _ present, own⟩
  · intro url others listed
    rcases List.mem_append.mp listed with first | later
    · obtain ⟨rfl, same⟩ := (lists url others).mp first
      cases same
      exact ⟨⟨node, .head _, online, rfl⟩, fun container member =>
        reports (fun _ => List.mem_append_left _) (compared container member)⟩
    · obtain ⟨⟨owner, present, online⟩, others'⟩ := scans.listed url others later
      exact ⟨⟨owner, .tail _ present, online⟩, fun container member =>
        reports (fun _ => List.mem_append_right _) (others' container member)⟩

end Scans

section Conversations

open Program

variable {node : Node} {known : List String} {remove : Bool} {talk : Talk}

theorem compares {containers : List (Hosts.Container ContainerSpec)} {orphans : List Orphan}
    (gives : (reconcileContainers node known remove containers).Gives talk orphans) :
    (∀ container ∈ containers,
      claimedBy known container.id = true ∨ Reported orphans container) ∧
      ∀ url others, listing url others ∉ talk := by
  induction containers generalizing talk orphans with
  | nil =>
      obtain ⟨rfl, rfl⟩ := gives_pure.mp gives
      simp
  | cons container rest ih =>
      unfold reconcileContainers at gives
      split at gives
      · rename_i claimed
        obtain ⟨others, silent⟩ := ih gives
        exact ⟨List.forall_mem_cons.mpr ⟨.inl claimed, others⟩, silent⟩
      · have reports : ∀ {entry : Orphan} {tail : Talk},
            entry.containerId = Agents.clip container.id 12 → entry.name = container.spec.name →
            (reconcileContainers node known remove rest >>= fun others =>
              pure (entry :: others)).Gives tail orphans →
            (∀ other ∈ container :: rest,
              claimedBy known other.id = true ∨ Reported orphans other) ∧
              ∀ url others, listing url others ∉ tail := by
          intro entry tail short named ends
          obtain ⟨first, found, second, rfl, compared, last⟩ := gives_bind.mp ends
          obtain ⟨rfl, rfl⟩ := gives_pure.mp last
          obtain ⟨others, silent⟩ := ih compared
          refine ⟨List.forall_mem_cons.mpr ⟨.inr ⟨entry, .head _, short, named⟩, ?_⟩, ?_⟩
          · intro other member
            refine (others other member).imp_right ?_
            rintro ⟨orphan, reported, same⟩
            exact ⟨orphan, .tail _ reported, same⟩
          · simpa using silent
        cases remove with
        | false => exact reports rfl rfl gives
        | true =>
            obtain ⟨reply, tail, rfl, last⟩ := gives_perform.mp gives
            have others : (∀ other ∈ container :: rest,
                claimedBy known other.id = true ∨ Reported orphans other) ∧
                  ∀ url others, listing url others ∉ tail := by
              cases reply with
              | ok _ => exact reports rfl rfl last
              | error failure => exact reports rfl rfl last
            exact ⟨others.1, fun url listed member => (List.mem_cons.mp member).elim
              (fun same => by cases congrArg Exchange.op same) (others.2 url listed)⟩

theorem scanNode_lists {scanned : Option (List (Hosts.Container ContainerSpec))}
    (gives : (scanNode node).Gives talk scanned) (url : String)
    (containers : List (Hosts.Container ContainerSpec)) :
    listing url containers ∈ talk ↔ url = node.agentUrl ∧ scanned = some containers := by
  obtain ⟨reply, tail, rfl, last⟩ := gives_perform.mp gives
  have connect : listing url containers ≠ ⟨.agent node.agentUrl .connect, reply⟩ :=
    listing_ne (by simp)
  cases reply with
  | error failure =>
      obtain ⟨rfl, rfl⟩ := gives_pure.mp last
      simp [connect]
  | ok _ =>
      obtain ⟨answer, ending, rfl, ends⟩ := gives_perform.mp last
      cases answer with
      | error failure =>
          obtain ⟨rfl, rfl⟩ := gives_pure.mp ends
          simp only [List.mem_cons, connect, false_or, List.not_mem_nil, or_false, reduceCtorEq,
            and_false, iff_false]
          intro same
          cases same
      | ok listed =>
          obtain ⟨rfl, rfl⟩ := gives_pure.mp ends
          simp only [List.mem_cons, connect, false_or, List.not_mem_nil, or_false]
          exact listing_inj.trans (and_congr_right fun _ =>
            ⟨fun same => congrArg some same.symm, fun same => (Option.some.inj same).symm⟩)

theorem reconcileNodes_scans {nodes : List Node} {orphans : List Orphan} {unscanned : List String}
    (gives : (reconcileNodes known remove nodes).Gives talk (orphans, unscanned)) :
    Scans known nodes talk orphans unscanned := by
  induction nodes generalizing talk orphans unscanned with
  | nil =>
      obtain ⟨rfl, same⟩ := gives_pure.mp gives
      cases same
      constructor <;> simp
  | cons node rest ih =>
      unfold reconcileNodes at gives
      split at gives
      · rename_i away
        obtain ⟨first, ⟨found, left⟩, second, rfl, scanned, last⟩ := gives_bind.mp gives
        obtain ⟨rfl, same⟩ := gives_pure.mp last
        cases same
        rw [List.append_nil]
        exact (ih scanned).skip (.head _) fun _ _ => List.not_mem_nil
      · rename_i online
        obtain ⟨first, scanned, second, rfl, asks, last⟩ := gives_bind.mp gives
        have lists := scanNode_lists asks
        cases scanned with
        | none =>
            obtain ⟨third, ⟨found, left⟩, fourth, rfl, others, ends⟩ := gives_bind.mp last
            obtain ⟨rfl, same⟩ := gives_pure.mp ends
            cases same
            rw [List.append_nil]
            exact (ih others).skip (.tail _ (.head _)) (by simpa using lists)
        | some containers =>
            obtain ⟨third, found, fourth, rfl, matched, others⟩ := gives_bind.mp last
            obtain ⟨fifth, ⟨more, left⟩, sixth, rfl, scanned, ends⟩ := gives_bind.mp others
            obtain ⟨rfl, same⟩ := gives_pure.mp ends
            cases same
            obtain ⟨compared, silent⟩ := compares matched
            rw [List.append_nil, ← List.append_assoc]
            exact (ih scanned).visit (not_not.mp online)
              (fun url others => by simp [lists, silent]) compared

end Conversations

def asking : Protocol deploymentSignature Unit where
  allowed _ op := ∃ url call, op = .agent url call
  trusted _ _ _ := True
  after _ _ _ := ()

theorem asks_agent {url : String} {call : AgentCall} :
    asking.Follows (agent url call) () fun _ _ => True :=
  ⟨⟨url, call, rfl⟩, fun _ _ => trivial⟩

theorem asks_bind {α β : Type} {program : DeploymentProgram α} {rest : α → DeploymentProgram β}
    (first : asking.Follows program () fun _ _ => True)
    (second : ∀ value, asking.Follows (rest value) () fun _ _ => True) :
    asking.Follows (program >>= rest) () fun _ _ => True :=
  asking.follows_bind first fun value _ _ => second value

theorem asks_reconcileContainers (node : Node) (known : List String) (remove : Bool)
    (containers : List (Hosts.Container ContainerSpec)) :
    asking.Follows (reconcileContainers node known remove containers) () fun _ _ => True := by
  induction containers with
  | nil => trivial
  | cons container rest ih =>
      unfold reconcileContainers
      split
      · exact ih
      · have records : ∀ entry : Orphan,
            asking.Follows (reconcileContainers node known remove rest >>= fun others =>
              pure (entry :: others)) () fun _ _ => True :=
          fun _ => asks_bind ih fun _ => trivial
        cases remove with
        | false => exact asks_bind trivial records
        | true =>
            apply asks_bind asks_agent
            intro reply
            cases reply with
            | ok _ => exact asks_bind trivial records
            | error failure => exact asks_bind trivial records

theorem asks_scanNode (node : Node) : asking.Follows (scanNode node) () fun _ _ => True := by
  apply asks_bind
  · apply asks_bind asks_agent
    intro reply
    cases reply <;> trivial
  · intro reached
    cases reached with
    | error message => trivial
    | ok _ =>
        apply asks_bind asks_agent
        intro reply
        cases reply <;> trivial

theorem asks_reconcileNodes (known : List String) (remove : Bool) (nodes : List Node) :
    asking.Follows (reconcileNodes known remove nodes) () fun _ _ => True := by
  induction nodes with
  | nil => trivial
  | cons node rest ih =>
      unfold reconcileNodes
      split
      · exact asks_bind ih fun _ => trivial
      · apply asks_bind (asks_scanNode node)
        intro scanned
        cases scanned with
        | none => exact asks_bind ih fun _ => trivial
        | some containers =>
            exact asks_bind (asks_reconcileContainers ..) fun _ => asks_bind ih fun _ => trivial

theorem reconcileNodes_calls {known : List String} {remove : Bool} {nodes : List Node} {talk : Talk}
    {result : List Orphan × List String}
    (gives : (reconcileNodes known remove nodes).Gives talk result) :
    ∀ exchange ∈ talk, ∃ url call, exchange.op = .agent url call :=
  Protocol.allowed_of_gives (fun _ _ allowed => allowed) (fun _ _ _ => trivial)
    (asks_reconcileNodes known remove nodes) gives

def ReadsFleet (shared : Shared) (talk : Talk) : Prop :=
  ∀ limit nodes, ⟨.read (.nodes limit), nodes⟩ ∈ talk → nodes = shared.nodesByName limit

/-- The nodes that `list_all` leaves for the next page. -/
def nodesBeyond (shared : Shared) (limit : Nat) : List Node :=
  (shared.nodes.insertionSort fun left right => left.name ≤ right.name).drop limit

def Covers (shared : Shared) (talk : Talk) (orphans : List Orphan) (unscanned : List String) :
    Prop :=
  ∀ node ∈ shared.nodes, Compared talk orphans node ∨ Named unscanned node

def AllClaimed (shared : Shared) (talk : Talk) : Prop :=
  ∀ node ∈ shared.nodes, ∃ rows containers, ⟨.read .deployments, rows⟩ ∈ talk ∧
    listing node.agentUrl containers ∈ talk ∧
      ∀ container ∈ containers, claimedBy (knownIds rows) container.id = true

/-- Each node that is left for the next page has the agent of an ONLINE node of
the first page, and this agent answers. -/
def SharesAgents (shared : Shared) (talk : Talk) : Prop :=
  ∀ node ∈ nodesBeyond shared 100, ∃ other ∈ shared.nodesByName 100, other.status = .online ∧
    other.agentUrl = node.agentUrl ∧ ∃ containers, listing node.agentUrl containers ∈ talk

theorem mem_nodes {shared : Shared} {limit : Nat} {node : Node} :
    node ∈ shared.nodes ↔ node ∈ shared.nodesByName limit ∨ node ∈ nodesBeyond shared limit := by
  rw [Shared.nodesByName, nodesBeyond, ← List.mem_append, List.take_append_drop,
    List.mem_insertionSort]

theorem nodesBeyond_differs {column : Node → String} {shared : Shared} {limit : Nat}
    {node other : Node} (distinct : (shared.nodes.map column).Nodup)
    (first : node ∈ shared.nodesByName limit) (later : other ∈ nodesBeyond shared limit) :
    column node ≠ column other := by
  have sorted : ((shared.nodes.insertionSort fun left right => left.name ≤ right.name).map
      column).Nodup :=
    ((List.perm_insertionSort _ shared.nodes).map _).nodup_iff.mpr distinct
  rw [← List.take_append_drop limit (shared.nodes.insertionSort _), List.map_append,
    List.nodup_append] at sorted
  exact sorted.2.2 _ (List.mem_map_of_mem first) _ (List.mem_map_of_mem later)

theorem nodesBeyond_nil {shared : Shared} {limit : Nat} (few : shared.nodes.length ≤ limit) :
    nodesBeyond shared limit = [] := by
  apply List.drop_of_length_le
  rw [List.length_insertionSort]
  exact few

theorem gives_page {remove : Bool} {nodes : List Node} {talk : Talk}
    {result : List Orphan × List String} (rows : List ModelDeployment)
    (gives : (reconcileNodes (knownIds rows) remove nodes).Gives talk result) :
    (reconcileOrphans remove).Gives
      (⟨.read .deployments, rows⟩ :: ⟨.read (.nodes 100), nodes⟩ :: talk) result := by
  refine Program.gives_perform.mpr ⟨rows, _, rfl, ?_⟩
  exact Program.gives_perform.mpr ⟨nodes, _, rfl, gives⟩

theorem readsFleet_of_page {shared : Shared} {known : List String} {remove : Bool}
    {rows : List ModelDeployment} {talk : Talk} {result : List Orphan × List String}
    (gives : (reconcileNodes known remove (shared.nodesByName 100)).Gives talk result) :
    ReadsFleet shared (⟨.read .deployments, rows⟩ ::
      ⟨.read (.nodes 100), shared.nodesByName 100⟩ :: talk) := by
  intro limit nodes member
  rcases member with _ | ⟨_, _ | ⟨_, member⟩⟩
  · rfl
  · obtain ⟨_, _, call⟩ := reconcileNodes_calls gives _ member
    cases call

theorem reconcileOrphans_scans {shared : Shared} {remove : Bool} {talk : Talk}
    {orphans : List Orphan} {unscanned : List String}
    (gives : (reconcileOrphans remove).Gives talk (orphans, unscanned))
    (reads : ReadsFleet shared talk) :
    ∃ rows rest, talk = ⟨.read .deployments, rows⟩ ::
        ⟨.read (.nodes 100), shared.nodesByName 100⟩ :: rest ∧
      Scans (knownIds rows) (shared.nodesByName 100) rest orphans unscanned := by
  obtain ⟨rows, tail, rfl, asks⟩ := Program.gives_perform.mp gives
  obtain ⟨nodes, rest, rfl, scans⟩ := Program.gives_perform.mp asks
  obtain rfl := reads 100 nodes (.tail _ (.head _))
  exact ⟨rows, rest, rfl, reconcileNodes_scans scans⟩

/-- Whatever the agents answer and however the scan interleaves, every registered
node is compared or named if and only if no node is left for the next page of which
nothing is known from the first. -/
theorem scan_covers_iff (shared : Shared) (distinct : (shared.nodes.map (·.name)).Nodup)
    (remove : Bool) (talk : Talk) (orphans : List Orphan) (unscanned : List String)
    (gives : (reconcileOrphans remove).Gives talk (orphans, unscanned))
    (reads : ReadsFleet shared talk) :
    (Covers shared talk orphans unscanned ∧
        (orphans = [] → unscanned = [] → AllClaimed shared talk)) ↔
      SharesAgents shared talk := by
  obtain ⟨rows, rest, shape, scans⟩ := reconcileOrphans_scans gives reads
  have starts : ∀ url containers, listing url containers ∈ talk ↔ listing url containers ∈ rest := by
    intro url containers
    simp [shape, listing_ne]
  have compared : ∀ node : Node, (∃ containers, listing node.agentUrl containers ∈ talk) →
      Compared talk orphans node := by
    rintro node ⟨containers, listed⟩
    refine ⟨rows, containers, ?_, listed, (scans.listed _ _ ((starts _ _).mp listed)).2⟩
    rw [shape]
    exact .head _
  constructor
  · rintro ⟨covers, _⟩ node later
    rcases covers node (mem_nodes.mpr (.inr later)) with ⟨_, containers, _, listed, _⟩ | named
    · obtain ⟨⟨other, first, online, same⟩, _⟩ := scans.listed _ _ ((starts _ _).mp listed)
      exact ⟨other, first, online, same, containers, listed⟩
    · obtain ⟨entry, own, present⟩ := named
      obtain ⟨other, first, also⟩ := scans.named entry present
      exact absurd (unscannedEntries_name also own) (nodesBeyond_differs distinct first later)
  · intro shares
    have covers : Covers shared talk orphans unscanned := by
      intro node member
      rcases mem_nodes.mp member with first | later
      · rcases scans.covered node first with named | ⟨_, containers, listed⟩
        · exact .inr named
        · exact .inl (compared node ⟨containers, (starts _ _).mpr listed⟩)
      · obtain ⟨_, _, _, _, answers⟩ := shares node later
        exact .inl (compared node answers)
    refine ⟨covers, fun quiet complete node member => ?_⟩
    rcases covers node member with ⟨rows, containers, known, listed, matched⟩ | ⟨_, _, named⟩
    · refine ⟨rows, containers, known, listed, fun container present => ?_⟩
      exact (matched container present).resolve_right fun ⟨_, reported, _⟩ => by
        rw [quiet] at reported
        cases reported
    · rw [complete] at named
      cases named

def onlineNode (i : Nat) : Node :=
  ⟨i, String.ofList (List.replicate i 'n'), String.ofList (List.replicate i 'n'), .online, false⟩

def crowd (count : Nat) : Shared :=
  { Shared.empty with nodes := (List.range count).map onlineNode }

theorem crowd_names (count : Nat) : ((crowd count).nodes.map (·.name)).Nodup := by
  rw [crowd, List.map_map]
  refine List.nodup_range.map fun i j same => ?_
  simpa [onlineNode] using congrArg String.length same

theorem crowd_agents (count : Nat) : ((crowd count).nodes.map (·.agentUrl)).Nodup := by
  have same : (crowd count).nodes.map (·.agentUrl) = (crowd count).nodes.map (·.name) := by
    rw [crowd, List.map_map, List.map_map]
    rfl
  rw [same]
  exact crowd_names count

theorem quiet_scan (known : List String) (remove : Bool) {nodes : List Node}
    (online : ∀ node ∈ nodes, node.status = .online) :
    ∃ talk, (reconcileNodes known remove nodes).Gives talk ([], []) := by
  induction nodes with
  | nil => exact ⟨[], .done _⟩
  | cons node rest ih =>
      obtain ⟨talk, gives⟩ := ih fun other member => online other (.tail _ member)
      refine ⟨⟨.agent node.agentUrl .connect, Except.ok ()⟩ :: listing node.agentUrl [] :: talk, ?_⟩
      unfold reconcileNodes
      rw [if_neg (by simpa using online node (.head _))]
      refine .perform _ (.perform _ ?_)
      change (reconcileNodes known remove rest >>= fun others =>
        pure ([] ++ others.1, others.2)).Gives talk ([], [])
      exact Program.gives_bind.mpr ⟨talk, _, [], (List.append_nil _).symm, gives, .done _⟩

theorem quiet_crowd (count : Nat) :
    ∃ talk, (reconcileOrphans false).Gives talk ([], []) ∧ ReadsFleet (crowd count) talk := by
  have online : ∀ node ∈ (crowd count).nodesByName 100, node.status = .online := by
    intro node member
    have stored := mem_nodes.mpr (.inl member)
    obtain ⟨i, _, rfl⟩ := List.mem_map.mp stored
    rfl
  obtain ⟨talk, gives⟩ := quiet_scan (knownIds []) false online
  exact ⟨_, gives_page [] gives, readsFleet_of_page gives⟩

theorem full_pages_are_covered :
    ∃ talk, (reconcileOrphans false).Gives talk ([], []) ∧ Covers (crowd 100) talk [] [] := by
  obtain ⟨talk, gives, reads⟩ := quiet_crowd 100
  refine ⟨talk, gives, ?_⟩
  refine ((scan_covers_iff (crowd 100) (crowd_names 100) false talk [] [] gives reads).mpr ?_).1
  intro node later
  rw [nodesBeyond_nil (by simp [crowd])] at later
  cases later

/-- One ONLINE node more than a page: the report is empty, no node is named, and the
last node was not asked. -/
theorem further_nodes_are_not_covered :
    ∃ talk, (reconcileOrphans false).Gives talk ([], []) ∧ ReadsFleet (crowd 101) talk ∧
      ¬ Covers (crowd 101) talk [] [] := by
  obtain ⟨talk, gives, reads⟩ := quiet_crowd 101
  refine ⟨talk, gives, reads, fun covers => ?_⟩
  obtain ⟨rows, rest, shape, scans⟩ := reconcileOrphans_scans gives reads
  have later : 0 < (nodesBeyond (crowd 101) 100).length := by
    rw [nodesBeyond, List.length_drop, List.length_insertionSort]
    simp [crowd]
  have last := List.getElem_mem later
  rcases covers _ (mem_nodes.mpr (.inr last)) with ⟨_, containers, _, listed, _⟩ | ⟨_, _, named⟩
  · have asked : listing (nodesBeyond (crowd 101) 100)[0].agentUrl containers ∈ rest := by
      simpa [shape, listing_ne] using listed
    obtain ⟨⟨other, first, _, same⟩, _⟩ := scans.listed _ _ asked
    exact nodesBeyond_differs (crowd_agents 101) first last same
  · cases named

end AiPlatform.Deployments
