import AiPlatform.Histories
import Mathlib.Data.List.Nodup

/-!
The guard of `src/node-agent/app/runtime/docker.py`: `_require_managed`, the
commands behind it and `create`, on a daemon with other users. A container keeps
its id and labels, and no id is used twice; names pass from one container to
another. What a reference finds is up to the daemon. A call can be overtaken
between the look-up and the command. The other arguments of `create` and what
the calls return are left out.
-/

namespace AiPlatform.ManagedContainers

structure Container where
  id : Nat
  name : String
  labels : List (String × String)
  deriving DecidableEq

inductive Command
  | start | stop (timeoutSeconds : Nat) | restart (timeoutSeconds : Nat) | remove (force : Bool)
  deriving DecidableEq

structure Settings where
  managedLabel : String
  allowUnmanagedControl : Bool

structure Daemon where
  containers : List Container
  images : List String
  nextId : Nat

inductive Raised
  | unmanaged (message : String)
  | unavailable (message : String)
  | notFound
  deriving DecidableEq

def Container.managed (settings : Settings) (container : Container) : Bool :=
  container.labels.any fun label => label.1 = settings.managedLabel

def requireManaged (settings : Settings) (container : Container) : Except Raised Container :=
  if !container.managed settings && !settings.allowUnmanagedControl then
    .error (.unmanaged (s!"Container '{container.name}' does not carry the " ++
      s!"'{settings.managedLabel}' label, so the platform will not control it. This guard " ++
      "prevents the agent from stopping infrastructure it does not own, including the platform's " ++
      "own database."))
  else .ok container

/-- `{**labels, key: value}` -/
def merged (labels : List (String × String)) (key value : String) : List (String × String) :=
  labels.filter (fun label => label.1 ≠ key) ++ [(key, value)]

def Daemon.add (daemon : Daemon) (name : String) (labels : List (String × String)) : Daemon :=
  { daemon with
    containers := daemon.containers ++ [⟨daemon.nextId, name, labels⟩]
    nextId := daemon.nextId + 1 }

def create (settings : Settings) (daemon : Daemon) (image name : String)
    (labels : List (String × String)) : Except Raised Daemon :=
  if image ∈ daemon.images then
    .ok (daemon.add name (merged labels settings.managedLabel "true"))
  else .error (.unavailable (s!"Image '{image}' is not present on this host. Load it from the " ++
    "offline bundle with `docker load`; the platform never pulls (Rule 4)."))

inductive Call
  | holding (command : Command) (container : Container)
  | ended (outcome : Except Raised Unit)

structure State where
  daemon : Daemon
  calls : Nat → Option Call
  /-- The containers as the commands of the agent met them. -/
  commanded : List (Command × Container)
  /-- The ids of the containers that the agent has created. -/
  own : List Nat

inductive Op
  | find (i : Nat) (command : Command) (found : Option Container)
  | command (i : Nat)
  | create (image name : String) (labels : List (String × String))
  -- What the other users leave of the daemon.
  | others (daemon : Daemon)

def State.put (state : State) (i : Nat) (call : Call) : State :=
  { state with calls := fun j => if j = i then some call else state.calls j }

def Daemon.delete (daemon : Daemon) (id : Nat) : Daemon :=
  { daemon with containers := daemon.containers.filter fun container => container.id ≠ id }

def Daemon.after (daemon : Daemon) (id : Nat) : Command → Daemon
  | .remove _ => daemon.delete id
  | _ => daemon

def step (settings : Settings) (state : State) : Op → Option State
  | .find i command found =>
      match state.calls i, found with
      | some _, _ => none
      | none, none => some (state.put i (.ended (.error .notFound)))
      | none, some container =>
          if container ∈ state.daemon.containers then
            match requireManaged settings container with
            | .error raised => some (state.put i (.ended (.error raised)))
            | .ok container => some (state.put i (.holding command container))
          else none
  | .command i =>
      match state.calls i with
      | some (.holding command container) =>
          match state.daemon.containers.find? fun other => other.id = container.id with
          | none => some (state.put i (.ended (.error .notFound)))
          | some met => some { state.put i (.ended (.ok ())) with
              daemon := state.daemon.after container.id command
              commanded := state.commanded ++ [(command, met)] }
      | _ => none
  | .create image name labels =>
      match create settings state.daemon image name labels with
      | .error _ => none
      | .ok daemon => some { state with
          daemon := daemon, own := state.own ++ [state.daemon.nextId] }
  | .others daemon => some { state with daemon := daemon }

/-- No container in the daemon has the id without the label, now or later. -/
def Daemon.Managed (settings : Settings) (daemon : Daemon) (id : Nat) : Prop :=
  id < daemon.nextId ∧
    ∀ container ∈ daemon.containers, container.id = id → container.managed settings = true

structure Daemon.Sound (daemon : Daemon) : Prop where
  numbered : ∀ container ∈ daemon.containers, container.id < daemon.nextId
  distinct : (daemon.containers.map Container.id).Nodup

/-- A change of the daemon: containers keep their ids and labels, and new ones get new ids. -/
structure Evolves (before after : Daemon) : Prop where
  sound : after.Sound
  later : before.nextId ≤ after.nextId
  same : ∀ container ∈ after.containers, before.nextId ≤ container.id ∨
    ∃ old ∈ before.containers, old.id = container.id ∧ old.labels = container.labels

def Kept (state : State) : Op → Prop
  | .others daemon => Evolves state.daemon daemon
  | _ => True

structure Sound (settings : Settings) (state : State) : Prop where
  daemon : state.daemon.Sound
  own : ∀ id ∈ state.own, state.daemon.Managed settings id
  held : ∀ {i command container}, state.calls i = some (.holding command container) →
    state.daemon.Managed settings container.id
  guarded : ∀ entry ∈ state.commanded, entry.2.managed settings = true

variable {settings : Settings} {before daemon : Daemon} {state after : State}

theorem Evolves.managed (evolves : Evolves before daemon) {id : Nat}
    (managed : before.Managed settings id) : daemon.Managed settings id := by
  obtain ⟨known, all⟩ := managed
  refine ⟨Nat.lt_of_lt_of_le known evolves.later, fun container member same => ?_⟩
  rcases evolves.same container member with new | ⟨old, present, ids, labels⟩
  · exact absurd known (by omega)
  · rw [Container.managed, ← labels]
    exact all old present (ids.trans same)

theorem Daemon.Sound.refl (sound : daemon.Sound) : Evolves daemon daemon :=
  ⟨sound, Nat.le_refl _, fun container member => .inr ⟨container, member, rfl, rfl⟩⟩

theorem Daemon.Sound.add (sound : daemon.Sound) (name : String)
    (labels : List (String × String)) : Evolves daemon (daemon.add name labels) := by
  have new : daemon.nextId ∉ daemon.containers.map Container.id := by
    intro member
    obtain ⟨container, present, same⟩ := List.mem_map.mp member
    exact absurd (sound.numbered container present) (by omega)
  refine ⟨⟨fun container member => ?_, ?_⟩, Nat.le_succ _, fun container member => ?_⟩
  · rcases List.mem_append.mp member with old | last
    · exact Nat.lt_succ_of_lt (sound.numbered container old)
    · cases List.mem_singleton.mp last
      exact Nat.lt_succ_self _
  · simp only [Daemon.add, List.map_append, List.map_cons, List.map_nil]
    refine List.nodup_append.mpr ⟨sound.distinct, by simp, fun id old other last => ?_⟩
    rw [List.mem_singleton.mp last]
    exact fun same => new (same ▸ old)
  · rcases List.mem_append.mp member with old | last
    · exact .inr ⟨container, old, rfl, rfl⟩
    · cases List.mem_singleton.mp last
      exact .inl (Nat.le_refl _)

theorem Daemon.Sound.delete (sound : daemon.Sound) (id : Nat) :
    Evolves daemon (daemon.delete id) :=
  ⟨⟨fun container member => sound.numbered container (List.mem_of_mem_filter member),
      sound.distinct.sublist (List.filter_sublist.map _)⟩, Nat.le_refl _,
    fun container member => .inr ⟨container, List.mem_of_mem_filter member, rfl, rfl⟩⟩

theorem requireManaged_ok {container found : Container}
    (forbidden : settings.allowUnmanagedControl = false)
    (allowed : requireManaged settings container = .ok found) :
    found = container ∧ container.managed settings = true := by
  unfold requireManaged at allowed
  split at allowed
  · cases allowed
  · rename_i managed
    cases allowed
    exact ⟨rfl, by simpa [forbidden] using managed⟩

theorem distinct_managed (sound : daemon.Sound) {container : Container}
    (member : container ∈ daemon.containers) (managed : container.managed settings = true) :
    daemon.Managed settings container.id := by
  refine ⟨sound.numbered container member, fun other present same => ?_⟩
  rw [List.inj_on_of_nodup_map sound.distinct present member same]
  exact managed

theorem Sound.moved (sound : Sound settings state) (evolves : Evolves state.daemon daemon) :
    Sound settings { state with daemon := daemon } :=
  ⟨evolves.sound, fun id member => evolves.managed (sound.own id member),
    fun found => evolves.managed (sound.held found), sound.guarded⟩

theorem Sound.put {i : Nat} {call : Call} (sound : Sound settings state)
    (held : ∀ command container, call = .holding command container →
      state.daemon.Managed settings container.id) : Sound settings (state.put i call) := by
  refine ⟨sound.daemon, sound.own, fun {j command container} found => ?_, sound.guarded⟩
  by_cases self : j = i
  · cases (if_pos self).symm.trans found
    exact held command container rfl
  · exact sound.held ((if_neg self).symm.trans found)

theorem step_sound {op : Op} (forbidden : settings.allowUnmanagedControl = false)
    (sound : Sound settings state) (kept : Kept state op)
    (stepped : step settings state op = some after) : Sound settings after := by
  cases op with
  | find i command found =>
      simp only [step] at stepped
      split at stepped
      · cases stepped
      · cases stepped
        exact sound.put fun _ _ same => by cases same
      · split at stepped
        · rename_i present
          split at stepped
          · cases stepped
            exact sound.put fun _ _ same => by cases same
          · rename_i allowed
            obtain ⟨rfl, managed⟩ := requireManaged_ok forbidden allowed
            cases stepped
            refine sound.put fun _ _ same => ?_
            cases same
            exact distinct_managed sound.daemon present managed
        · cases stepped
  | command i =>
      simp only [step] at stepped
      split at stepped
      · rename_i command container found
        split at stepped
        · cases stepped
          exact sound.put fun _ _ same => by cases same
        · rename_i met present
          cases stepped
          -- What has the id now is what was looked up.
          have managed := (sound.held found).2 met (List.mem_of_find?_eq_some present)
            (by simpa using List.find?_some present)
          have evolves : Evolves state.daemon (state.daemon.after container.id command) := by
            cases command with
            | remove force => exact sound.daemon.delete _
            | _ => exact sound.daemon.refl
          have ended : Sound settings (state.put i (.ended (.ok ()))) :=
            sound.put fun _ _ same => by cases same
          obtain ⟨daemon, own, held, guarded⟩ := ended.moved evolves
          refine ⟨daemon, own, held, fun entry member => ?_⟩
          rcases List.mem_append.mp member with old | last
          · exact guarded entry old
          · cases List.mem_singleton.mp last
            exact managed
      · cases stepped
  | create image name labels =>
      simp only [step] at stepped
      split at stepped
      · cases stepped
      · rename_i daemon created
        cases stepped
        unfold create at created
        split at created
        · cases created
          obtain ⟨whole, own, held, guarded⟩ := sound.moved (sound.daemon.add name
            (merged labels settings.managedLabel "true"))
          refine ⟨whole, fun id member => ?_, held, guarded⟩
          rcases List.mem_append.mp member with old | last
          · exact own id old
          · rw [List.mem_singleton.mp last]
            refine distinct_managed whole (List.mem_append_right _ List.mem_cons_self) ?_
            simp [Container.managed, merged]
        · cases created
  | others daemon =>
      cases stepped
      exact sound.moved kept

/-- However the agent's calls interleave with what others do to the daemon, it commands only
containers that carry the label, and what it has created carries the label. -/
theorem commands_managed (forbidden : settings.allowUnmanagedControl = false)
    (whole : daemon.Sound)
    (history : History (step settings) Kept ⟨daemon, fun _ => none, [], []⟩ state) :
    (∀ entry ∈ state.commanded, entry.2.managed settings = true) ∧
      ∀ id ∈ state.own, ∀ container ∈ state.daemon.containers, container.id = id →
        container.managed settings = true := by
  have sound : Sound settings state := history.keeps (Sound settings)
    ⟨whole, fun _ member => (by cases member), fun found => (by cases found),
      fun _ member => (by cases member)⟩ fun _ _ _ kept stepped sound =>
      step_sound forbidden sound kept stepped
  exact ⟨sound.guarded, fun id member => (sound.own id member).2⟩

def guarding : Settings := ⟨"ai.platform.managed", false⟩

def vllm : Container := ⟨1, "vllm", [("ai.platform.managed", "true")]⟩

theorem commands_managed_vllm : ∃ state : State, state.commanded = [(.stop 30, vllm)] ∧
    ∀ entry ∈ state.commanded, entry.2.managed guarding = true := by
  have history : History (step guarding) Kept
      ⟨⟨[⟨0, "postgres", []⟩], ["vllm:1"], 1⟩, fun _ => none, [], []⟩ _ :=
    .next (.command 0) (.next (.find 0 (.stop 30) (some vllm))
      (.next (.create "vllm:1" "vllm" []) .start trivial rfl) trivial rfl) trivial rfl
  refine ⟨_, rfl, (commands_managed rfl ⟨?_, by decide⟩ history).1⟩
  intro container member
  cases List.mem_singleton.mp member
  exact Nat.one_pos

end AiPlatform.ManagedContainers
