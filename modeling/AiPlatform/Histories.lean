import Mathlib.Data.List.Basic

/-!
Histories of a service whose operations take effect one after the other. An
operation the state does not admit has no outcome. What every operation that
meets a condition keeps holds of every state reached by such operations.
-/

namespace AiPlatform

variable {State Op : Type}

/-- The states that operations reach from `start` when each meets the condition
`ok` in the state where it is taken. -/
inductive History (step : State → Op → Option State) (ok : State → Op → Prop)
    (start : State) : State → Prop
  | start : History step ok start start
  | next {state after : State} (op : Op) (earlier : History step ok start state)
      (meets : ok state op) (stepped : step state op = some after) :
      History step ok start after

namespace History

variable {step : State → Op → Option State} {ok : State → Op → Prop} {start state : State}

theorem keeps (holds : State → Prop) (first : holds start)
    (kept : ∀ state op after, ok state op → step state op = some after → holds state →
      holds after)
    (history : History step ok start state) : holds state := by
  induction history with
  | start => exact first
  | next op earlier meets stepped ih => exact kept _ op _ meets stepped ih

theorem trans {middle : State} (first : History step ok start middle)
    (second : History step ok middle state) : History step ok start state := by
  induction second with
  | start => exact first
  | next op earlier meets stepped ih => exact .next op ih meets stepped

end History

def replay (step : State → Op → Option State) (meets : State → Op → Bool) (state : State) :
    List Op → Option State
  | [] => some state
  | op :: rest =>
      if meets state op then (step state op).bind fun after => replay step meets after rest
      else none

theorem history_replay {step : State → Op → Option State} {meets : State → Op → Bool}
    {ok : State → Op → Prop} (sound : ∀ state op, meets state op = true → ok state op)
    {start final : State} (ops : List Op)
    (replayed : replay step meets start ops = some final) : History step ok start final := by
  induction ops generalizing start with
  | nil =>
      cases replayed
      exact .start
  | cons op rest ih =>
      simp only [replay] at replayed
      split at replayed
      · rename_i met
        obtain ⟨after, stepped, later⟩ := Option.bind_eq_some_iff.mp replayed
        exact .trans (.next op .start (sound _ _ met) stepped) (ih later)
      · cases replayed

end AiPlatform
