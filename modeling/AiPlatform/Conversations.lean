import AiPlatform.SoloRuns

/-!
Conversations. A conversation of a program is what one of its runs performs, with
the replies that it gets, in order. The surroundings may give any replies, so a
fact about all conversations holds however programs interleave.
-/

namespace AiPlatform

structure Exchange (S : Signature) where
  op : S.Op
  reply : S.Reply op

namespace Program

variable {S : Signature} {α β : Type}

/-- A run of the program has this conversation and this result. -/
inductive Gives : Program S α → List (Exchange S) → α → Prop
  | done (value : α) : Gives (.done value) [] value
  | perform {op : S.Op} {next : S.Reply op → Program S α} {talk : List (Exchange S)} {value : α}
      (reply : S.Reply op) (rest : Gives (next reply) talk value) :
      Gives (.perform op next) (⟨op, reply⟩ :: talk) value

@[simp] theorem gives_done {value other : α} {talk : List (Exchange S)} :
    (done value : Program S α).Gives talk other ↔ talk = [] ∧ other = value := by
  constructor
  · intro gives
    cases gives
    exact ⟨rfl, rfl⟩
  · rintro ⟨rfl, rfl⟩
    exact .done _

@[simp] theorem gives_pure {value other : α} {talk : List (Exchange S)} :
    (pure value : Program S α).Gives talk other ↔ talk = [] ∧ other = value := gives_done

@[simp] theorem gives_perform {op : S.Op} {next : S.Reply op → Program S α}
    {talk : List (Exchange S)} {value : α} :
    (perform op next).Gives talk value ↔
      ∃ reply rest, talk = ⟨op, reply⟩ :: rest ∧ (next reply).Gives rest value := by
  constructor
  · intro gives
    cases gives with
    | perform reply rest => exact ⟨reply, _, rfl, rest⟩
  · rintro ⟨reply, rest, rfl, gives⟩
    exact .perform reply gives

theorem gives_bind {program : Program S α} {rest : α → Program S β} {talk : List (Exchange S)}
    {value : β} :
    (program >>= rest).Gives talk value ↔
      ∃ first middle second, talk = first ++ second ∧ program.Gives first middle ∧
        (rest middle).Gives second value := by
  induction program generalizing talk with
  | done middle =>
      constructor
      · exact fun gives => ⟨[], middle, talk, rfl, .done middle, gives⟩
      · rintro ⟨first, other, second, rfl, gives, last⟩
        cases gives
        exact last
  | perform op next ih =>
      constructor
      · intro gives
        obtain ⟨reply, others, rfl, tail⟩ := gives_perform.mp gives
        obtain ⟨first, middle, second, rfl, begins, last⟩ := (ih reply).mp tail
        exact ⟨⟨op, reply⟩ :: first, middle, second, rfl, .perform reply begins, last⟩
      · rintro ⟨first, middle, second, rfl, begins, last⟩
        obtain ⟨reply, others, rfl, tail⟩ := gives_perform.mp begins
        exact .perform reply ((ih reply).mpr ⟨others, middle, second, rfl, tail, last⟩)

end Program

theorem Protocol.allowed_of_gives {S : Signature} {State α : Type} {P : Protocol S State}
    {allowed : S.Op → Prop} (allows : ∀ state op, P.allowed state op → allowed op)
    (trusts : ∀ state op reply, P.trusted state op reply) {program : Program S α} {state : State}
    {post : α → State → Prop} {talk : List (Exchange S)} {value : α}
    (follows : P.Follows program state post) (gives : program.Gives talk value) :
    ∀ exchange ∈ talk, allowed exchange.op := by
  induction gives generalizing state with
  | done => simp
  | @perform op _ _ _ reply _ ih =>
      refine List.forall_mem_cons.mpr ⟨allows state op follows.1, ?_⟩
      exact ih (follows.2 reply (trusts state op reply))

namespace Machine

variable {S : Signature} {α : Type} {M : Machine S}
  {ok : M.Session → M.Shared → S.Op → M.Answer → Prop} {i : Nat} {session final : M.Session}
  {shared store : M.Shared}

end Machine

end AiPlatform
