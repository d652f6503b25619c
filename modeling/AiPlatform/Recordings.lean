import AiPlatform.Processes

/-!
Schedules that are recorded while they run. A record notes every step of a system and
the condition on the next step may consult it, but the machine does not see it: a
recorded schedule is a schedule, and every schedule can be recorded.
-/

namespace AiPlatform

namespace System

variable {S : Signature} {M : Machine S} {Record : Type}

inductive Recorded (note : System M → Label M → System M → Record → Record)
    (ok : System M → Record → Label M → Prop) (start : System M) (blank : Record) :
    System M → Record → Prop
  | start : Recorded note ok start blank start blank
  | step {system next : System M} {record : Record} (label : Label M)
      (recorded : Recorded note ok start blank system record) (meets : ok system record label)
      (stepped : system.step label = some next) :
      Recorded note ok start blank next (note system label next record)

variable {note : System M → Label M → System M → Record → Record}
  {ok : System M → Record → Label M → Prop} {start : System M} {blank : Record}

theorem Recorded.reached {system : System M} {record : Record}
    (recorded : Recorded note ok start blank system record) :
    Reaches (fun _ _ => True) start system := by
  induction recorded with
  | start => exact .start
  | step label _ _ stepped ih => exact .step label ih trivial stepped

theorem Reaches.recorded {any : System M → Label M → Prop} {system : System M}
    (reached : Reaches any start system) :
    ∃ record, Recorded note (fun _ _ _ => True) start blank system record := by
  induction reached with
  | start => exact ⟨blank, .start⟩
  | step label _ _ stepped ih =>
      obtain ⟨record, recorded⟩ := ih
      exact ⟨_, .step label recorded trivial stepped⟩

theorem recorded_induction (holds : System M → Record → Prop) (initially : holds start blank)
    (preserved : ∀ system record label next, Recorded note ok start blank system record →
      holds system record → ok system record label → Transition system label next →
      holds next (note system label next record)) :
    ∀ system record, Recorded note ok start blank system record → holds system record := by
  intro system record recorded
  induction recorded with
  | start => exact initially
  | step label recorded meets stepped ih =>
      exact preserved _ _ label _ recorded ih meets (step_transition stepped)

def rerun (note : System M → Label M → System M → Record → Record)
    (meets : System M → Record → Label M → Bool) (system : System M) (record : Record) :
    List (Label M) → Option (System M × Record)
  | [] => some (system, record)
  | label :: rest =>
      if meets system record label then
        (system.step label).bind fun next => next.rerun note meets (note system label next record) rest
      else none

theorem recorded_rerun {meets : System M → Record → Label M → Bool} {system final : System M}
    {record last : Record} (labels : List (Label M))
    (recorded : Recorded note ok start blank system record)
    (implied : ∀ system record label, meets system record label = true → ok system record label)
    (rerun : system.rerun note meets record labels = some (final, last)) :
    Recorded note ok start blank final last := by
  induction labels generalizing system record with
  | nil =>
      cases rerun
      exact recorded
  | cons label rest ih =>
      rw [System.rerun] at rerun
      split at rerun
      · rename_i met
        obtain ⟨next, stepped, tail⟩ := Option.bind_eq_some_iff.mp rerun
        exact ih (.step label recorded (implied _ _ _ met) stepped) tail
      · cases rerun

theorem recorded_checked {meets : System M → Record → Label M → Bool} (labels : List (Label M))
    (check : System M × Record → Bool)
    (implied : ∀ system record label, meets system record label = true → ok system record label)
    (checked : (start.rerun note meets blank labels).any check = true) :
    ∃ final last, Recorded note ok start blank final last ∧ check (final, last) = true := by
  obtain ⟨⟨final, last⟩, rerun, found⟩ := (Option.any_eq_true _ _).mp checked
  exact ⟨final, last, recorded_rerun labels .start implied rerun, found⟩

end System

end AiPlatform
