import Mathlib.Data.List.Basic
import Mathlib.Data.List.Nodup

/-!
Containers on hosts. A command reaches a host or it does not, and its reply may
be lost either way, so what happened on the host is an event of its own. An id
that was given to a container is never given to another one.
-/

namespace AiPlatform.Hosts

variable {Spec : Type}

structure Container (Spec : Type) where
  id : String
  host : String
  spec : Spec
  running : Bool

structure Fleet (Spec : Type) where
  containers : List (Container Spec)
  used : List String

inductive Command (Spec : Type)
  | create (spec : Spec)
  | start (id : String)
  | stop (id : String)
  | restart (id : String)
  | remove (id : String)

inductive Event
  | created (id : String)
  | took
  | nothing

namespace Fleet

def empty : Fleet Spec := ⟨[], []⟩

def has (fleet : Fleet Spec) (host id : String) : Bool :=
  fleet.containers.any fun container => container.host = host && container.id = id

def setRunning (fleet : Fleet Spec) (host id : String) (running : Bool) : Fleet Spec :=
  { fleet with
    containers := fleet.containers.map fun container =>
      if container.host = host ∧ container.id = id then { container with running := running }
      else container }

def remove (fleet : Fleet Spec) (host id : String) : Fleet Spec :=
  { fleet with
    containers := fleet.containers.filter fun container =>
      !(container.host = host && container.id = id) }

def add (fleet : Fleet Spec) (host id : String) (spec : Spec) : Fleet Spec where
  containers := fleet.containers ++ [⟨id, host, spec, false⟩]
  used := fleet.used ++ [id]

/-- The fleet after a command to `host`, or `none` where the event is impossible. -/
def effect (fleet : Fleet Spec) (host : String) : Command Spec → Event → Option (Fleet Spec)
  | _, .nothing => some fleet
  | .create spec, .created id =>
      if fleet.used.contains id then none else some (fleet.add host id spec)
  | .start id, .took | .restart id, .took =>
      if fleet.has host id then some (fleet.setRunning host id true) else none
  | .stop id, .took => if fleet.has host id then some (fleet.setRunning host id false) else none
  | .remove id, .took => some (fleet.remove host id)
  | _, _ => none

def Survives (before after : Container Spec) : Prop :=
  after.id = before.id ∧ after.host = before.host ∧ after.spec = before.spec

@[simp] theorem survives_self (container : Container Spec) : Survives container container :=
  ⟨rfl, rfl, rfl⟩

theorem survives_setRunning {fleet : Fleet Spec} {host id : String} {running : Bool}
    {container : Container Spec}
    (present : container ∈ (fleet.setRunning host id running).containers) :
    ∃ old ∈ fleet.containers, Survives old container := by
  obtain ⟨old, listed, same⟩ := List.mem_map.mp present
  refine ⟨old, listed, ?_⟩
  split at same
  · subst same
    exact ⟨rfl, rfl, rfl⟩
  · subst same
    exact survives_self _

inductive Effect (fleet : Fleet Spec) (host : String) : Command Spec → Event → Fleet Spec → Prop
  | idle (command : Command Spec) : Effect fleet host command .nothing fleet
  | created (spec : Spec) (id : String) (fresh : id ∉ fleet.used) :
      Effect fleet host (.create spec) (.created id) (fleet.add host id spec)
  | switched (command : Command Spec) (id : String) (running : Bool) :
      Effect fleet host command .took (fleet.setRunning host id running)
  | removed (id : String) : Effect fleet host (.remove id) .took (fleet.remove host id)

theorem effect_cases {fleet after : Fleet Spec} {host : String} {command : Command Spec}
    {event : Event} (took : fleet.effect host command event = some after) :
    Effect fleet host command event after := by
  cases event with
  | nothing =>
      cases took
      exact .idle command
  | created id =>
      cases command with
      | create spec =>
          simp only [effect] at took
          split at took
          · cases took
          · cases took
            exact .created spec id (by simp_all)
      | start id => cases took
      | stop id => cases took
      | restart id => cases took
      | remove id => cases took
  | took =>
      cases command with
      | create spec => cases took
      | start id | stop id | restart id =>
          simp only [effect] at took
          split at took
          · cases took
            exact .switched _ id _
          · cases took
      | remove id =>
          cases took
          exact .removed id

end Fleet

end AiPlatform.Hosts
