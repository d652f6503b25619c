import AiPlatform.Processes

/-!
One program of a machine on its own: its operations follow one another, and
nothing else happens in between. The surroundings give any answer that `ok`
admits. A run ends with a value, or with none at an operation that has no reply,
which is how a program raises.
-/

namespace AiPlatform.Machine

variable {S : Signature} {α β : Type}

inductive Plays (M : Machine S) (ok : M.Session → M.Shared → S.Op → M.Answer → Prop) (i : Nat) :
    Program S α → M.Session → M.Shared → Option α → M.Session → M.Shared → Prop
  | done (value : α) (session : M.Session) (shared : M.Shared) :
      Plays M ok i (.done value) session shared (some value) session shared
  | perform {op : S.Op} {next : S.Reply op → Program S α} {session : M.Session}
      {shared : M.Shared} {answer : M.Answer} {reply : S.Reply op} {middle : M.Shared}
      {result : Option α} {final : M.Session} {store : M.Shared}
      (admitted : ok session shared op answer)
      (reacts : M.react i session shared op answer = some (reply, middle))
      (rest : Plays M ok i (next reply) (M.after session op reply) middle result final store) :
      Plays M ok i (.perform op next) session shared result final store
  | raised {op : S.Op} {next : S.Reply op → Program S α} (session : M.Session)
      (shared : M.Shared) (silent : S.Reply op → False) :
      Plays M ok i (.perform op next) session shared none session shared

variable {M : Machine S} {ok : M.Session → M.Shared → S.Op → M.Answer → Prop} {i : Nat}
  {session final : M.Session} {shared store : M.Shared}

@[simp] theorem plays_done {value : α} {result : Option α} :
    M.Plays ok i (.done value) session shared result final store ↔
      result = some value ∧ final = session ∧ store = shared := by
  constructor
  · intro plays
    cases plays
    exact ⟨rfl, rfl, rfl⟩
  · rintro ⟨rfl, rfl, rfl⟩
    exact .done value _ _

theorem plays_perform {op : S.Op} {next : S.Reply op → Program S α} {result : Option α}
    (replies : Nonempty (S.Reply op)) :
    M.Plays ok i (.perform op next) session shared result final store ↔
      ∃ answer reply middle, ok session shared op answer ∧
        M.react i session shared op answer = some (reply, middle) ∧
        M.Plays ok i (next reply) (M.after session op reply) middle result final store := by
  constructor
  · intro plays
    cases plays with
    | perform admitted reacts rest => exact ⟨_, _, _, admitted, reacts, rest⟩
    | raised _ _ silent => exact (silent replies.some).elim
  · rintro ⟨answer, reply, middle, admitted, reacts, rest⟩
    exact .perform admitted reacts rest

theorem plays_silent {op : S.Op} {next : S.Reply op → Program S α} {result : Option α}
    (silent : S.Reply op → False) :
    M.Plays ok i (.perform op next) session shared result final store ↔
      result = none ∧ final = session ∧ store = shared := by
  constructor
  · intro plays
    cases plays with
    | @perform _ _ _ _ _ reply => exact (silent reply).elim
    | raised => exact ⟨rfl, rfl, rfl⟩
  · rintro ⟨rfl, rfl, rfl⟩
    exact .raised _ _ silent

theorem plays_determined {op : S.Op} {next : S.Reply op → Program S α} {result : Option α}
    {reply : S.Reply op} {middle : M.Shared} (answer : M.Answer)
    (admitted : ok session shared op answer)
    (reacts : ∀ answer, M.react i session shared op answer = some (reply, middle)) :
    M.Plays ok i (.perform op next) session shared result final store ↔
      M.Plays ok i (next reply) (M.after session op reply) middle result final store := by
  rw [plays_perform ⟨reply⟩]
  constructor
  · rintro ⟨other, given, between, _, reacted, rest⟩
    rw [reacts other] at reacted
    cases reacted
    exact rest
  · exact fun rest => ⟨answer, reply, middle, admitted, reacts answer, rest⟩

theorem plays_bind {program : Program S α} {rest : α → Program S β} {result : Option β} :
    M.Plays ok i (program >>= rest) session shared result final store ↔
      (∃ value between middle, M.Plays ok i program session shared (some value) between middle ∧
        M.Plays ok i (rest value) between middle result final store) ∨
      result = none ∧ M.Plays ok i program session shared none final store := by
  induction program generalizing session shared with
  | done value =>
      constructor
      · exact fun plays => .inl ⟨value, session, shared, .done .., plays⟩
      · rintro (⟨_, _, _, first, second⟩ | ⟨_, first⟩)
        · cases first
          exact second
        · cases first
  | perform op next ih =>
      constructor
      · intro plays
        cases plays with
        | perform admitted reacts tail =>
            rcases (ih _).mp tail with ⟨value, between, middle, first, second⟩ | ⟨same, first⟩
            · exact .inl ⟨value, between, middle, .perform admitted reacts first, second⟩
            · exact .inr ⟨same, .perform admitted reacts first⟩
        | raised _ _ silent => exact .inr ⟨rfl, .raised _ _ silent⟩
      · rintro (⟨value, between, middle, first, second⟩ | ⟨rfl, first⟩)
        · cases first with
          | perform admitted reacts tail =>
              exact .perform admitted reacts ((ih _).mpr (.inl ⟨value, between, middle, tail, second⟩))
        · cases first with
          | perform admitted reacts tail =>
              exact .perform admitted reacts ((ih _).mpr (.inr ⟨rfl, tail⟩))
          | raised _ _ silent => exact .raised _ _ silent

theorem plays_request {op : S.Op} {result : Option (S.Reply op)} (replies : Nonempty (S.Reply op)) :
    M.Plays ok i (Program.request op) session shared result final store ↔
      ∃ answer reply, ok session shared op answer ∧
        M.react i session shared op answer = some (reply, store) ∧ result = some reply ∧
        final = M.after session op reply := by
  rw [Program.request, plays_perform replies]
  simp only [plays_done]
  constructor
  · rintro ⟨answer, reply, _, admitted, reacts, rfl, rfl, rfl⟩
    exact ⟨answer, reply, admitted, reacts, rfl, rfl⟩
  · rintro ⟨answer, reply, admitted, reacts, rfl, rfl⟩
    exact ⟨answer, reply, store, admitted, reacts, rfl, rfl, rfl⟩

theorem plays_attempt {ε : Type} {program : ExceptT ε (Program S) α}
    {rest : α → ExceptT ε (Program S) β} {result : Option (Except ε β)} :
    M.Plays ok i (program >>= rest).run session shared result final store ↔
      (∃ value between middle,
        M.Plays ok i program.run session shared (some (.ok value)) between middle ∧
        M.Plays ok i (rest value).run between middle result final store) ∨
      (∃ error, result = some (.error error) ∧
        M.Plays ok i program.run session shared (some (.error error)) final store) ∨
      result = none ∧ M.Plays ok i program.run session shared none final store := by
  rw [ExceptT.run_bind, plays_bind]
  constructor
  · rintro (⟨value, between, middle, first, second⟩ | ⟨same, first⟩)
    · cases value with
      | ok value => exact .inl ⟨value, between, middle, first, second⟩
      | error error =>
          obtain ⟨rfl, rfl, rfl⟩ := plays_done.mp second
          exact .inr (.inl ⟨error, rfl, first⟩)
    · exact .inr (.inr ⟨same, first⟩)
  · rintro (⟨value, between, middle, first, second⟩ | ⟨error, rfl, first⟩ | ⟨same, first⟩)
    · exact .inl ⟨.ok value, between, middle, first, second⟩
    · exact .inl ⟨.error error, final, store, first, .done ..⟩
    · exact .inr ⟨same, first⟩

theorem Plays.weaken {ok' : M.Session → M.Shared → S.Op → M.Answer → Prop}
    {program : Program S α} {result : Option α}
    (plays : M.Plays ok i program session shared result final store)
    (weaker : ∀ session shared op answer, ok session shared op answer →
      ok' session shared op answer) : M.Plays ok' i program session shared result final store := by
  induction plays with
  | done => exact .done ..
  | perform admitted reacts _ ih => exact .perform (weaker _ _ _ _ admitted) reacts ih
  | raised _ _ silent => exact .raised _ _ silent

def solo (M : Machine S) (i : Nat) (answers : S.Op → M.Answer) :
    Program S α → M.Session → M.Shared → Option (α × M.Session × M.Shared)
  | .done value, session, shared => some (value, session, shared)
  | .perform op next, session, shared =>
      match M.react i session shared op (answers op) with
      | some (reply, middle) => solo M i answers (next reply) (M.after session op reply) middle
      | none => none

theorem plays_solo {answers : S.Op → M.Answer} {program : Program S α} {value : α}
    (admitted : ∀ session shared op, ok session shared op (answers op))
    (ends : M.solo i answers program session shared = some (value, final, store)) :
    M.Plays ok i program session shared (some value) final store := by
  induction program generalizing session shared with
  | done ended =>
      cases ends
      exact .done ..
  | perform op next ih =>
      rw [solo] at ends
      split at ends
      · rename_i reply middle reacts
        exact .perform (admitted session shared op) reacts (ih reply ends)
      · cases ends

def Yields (M : Machine S) (ok : M.Session → M.Shared → S.Op → M.Answer → Prop) (i : Nat)
    (program : Program S α) (post : α → Prop) : Prop :=
  ∀ session shared result final store, M.Plays ok i program session shared result final store →
    ∃ value, result = some value ∧ post value

theorem yields_done {value : α} {post : α → Prop} (holds : post value) :
    M.Yields ok i (.done value) post := by
  intro session shared result final store plays
  exact ⟨value, (plays_done.mp plays).1, holds⟩

theorem yields_bind {program : Program S α} {rest : α → Program S β} {middle : α → Prop}
    {post : β → Prop} (first : M.Yields ok i program middle)
    (second : ∀ value, middle value → M.Yields ok i (rest value) post) :
    M.Yields ok i (program >>= rest) post := by
  intro session shared result final store plays
  rcases plays_bind.mp plays with ⟨value, between, after, begun, ended⟩ | ⟨_, raised⟩
  · obtain ⟨_, same, holds⟩ := first _ _ _ _ _ begun
    cases same
    exact second value holds _ _ _ _ _ ended
  · obtain ⟨_, same, _⟩ := first _ _ _ _ _ raised
    cases same

theorem yields_request {op : S.Op} {post : S.Reply op → Prop} (replies : Nonempty (S.Reply op))
    (holds : ∀ session shared answer reply middle, ok session shared op answer →
      M.react i session shared op answer = some (reply, middle) → post reply) :
    M.Yields ok i (.perform op .done) post := by
  intro session shared result final store plays
  obtain ⟨answer, reply, middle, admitted, reacts, rest⟩ := (plays_perform replies).mp plays
  exact ⟨reply, (plays_done.mp rest).1, holds _ _ _ _ _ admitted reacts⟩

theorem Plays.keeps {program : Program S α} {result : Option α} (holds : M.Session → M.Shared → Prop)
    (plays : M.Plays ok i program session shared result final store)
    (kept : ∀ session shared op answer reply middle, ok session shared op answer →
      M.react i session shared op answer = some (reply, middle) → holds session shared →
      holds (M.after session op reply) middle)
    (first : holds session shared) : holds final store := by
  induction plays with
  | done => exact first
  | perform admitted reacts _ ih => exact ih (kept _ _ _ _ _ _ admitted reacts first)
  | raised => exact first

end AiPlatform.Machine
