import Mathlib.Logic.Function.Basic

/-!
Programs over a signature of operations. A program either is done or performs
one operation and continues with its reply, so the points where a piece of
asynchronous code gives way to its surroundings are the nodes of a tree. A
protocol says which operations are allowed in a state, which replies the
surroundings may give, and how an operation and its reply change the state.
`Follows` is the rule of pre- and postconditions: the program performs allowed
operations only, whatever trusted replies it gets, and ends in the
postcondition.
-/

namespace AiPlatform

structure Signature where
  Op : Type
  Reply : Op → Type

inductive Program (S : Signature) (α : Type) : Type
  | done (value : α)
  | perform (op : S.Op) (next : S.Reply op → Program S α)

namespace Program

variable {S : Signature} {α β : Type}

def bind : Program S α → (α → Program S β) → Program S β
  | done value, rest => rest value
  | perform op next, rest => perform op fun reply => bind (next reply) rest

instance : Monad (Program S) where
  pure := done
  bind := bind

def request (op : S.Op) : Program S (S.Reply op) :=
  perform op done

@[simp] theorem pure_eq (value : α) : (pure value : Program S α) = done value := rfl

@[simp] theorem done_bind (value : α) (rest : α → Program S β) :
    (done value >>= rest) = rest value := rfl

@[simp] theorem request_bind (op : S.Op) (rest : S.Reply op → Program S β) :
    (request op >>= rest) = perform op rest := rfl

@[simp] theorem perform_bind (op : S.Op) (next : S.Reply op → Program S α)
    (rest : α → Program S β) :
    (perform op next >>= rest) = perform op (fun reply => next reply >>= rest) := rfl

theorem bind_assoc {γ : Type} (program : Program S α) (first : α → Program S β)
    (second : β → Program S γ) :
    (program >>= first) >>= second = program >>= fun value => first value >>= second := by
  induction program with
  | done value => rfl
  | perform op next ih => exact congrArg (perform op) (funext ih)

def Only (kind : S.Op → Prop) : Program S α → Prop
  | done _ => True
  | perform op next => kind op ∧ ∀ reply, Only kind (next reply)

theorem only_bind {kind : S.Op → Prop} {program : Program S α} {rest : α → Program S β}
    (first : program.Only kind) (second : ∀ value, (rest value).Only kind) :
    (program >>= rest).Only kind := by
  induction program with
  | done value => exact second value
  | perform op next ih => exact ⟨first.1, fun reply => ih reply (first.2 reply)⟩

inductive Continues : Program S α → Program S α → Prop
  | step (op : S.Op) (next : S.Reply op → Program S α) (reply : S.Reply op) :
      Continues (next reply) (perform op next)

theorem continues_acc (program : Program S α) : Acc Continues program := by
  induction program with
  | done value => exact ⟨_, fun rest goes => by cases goes⟩
  | perform op next ih =>
      refine ⟨_, fun rest goes => ?_⟩
      cases goes with
      | step _ _ reply => exact ih reply

end Program

structure Protocol (S : Signature) (State : Type) where
  allowed : State → S.Op → Prop
  trusted : State → (op : S.Op) → S.Reply op → Prop
  after : State → (op : S.Op) → S.Reply op → State

namespace Protocol

variable {S : Signature} {State α β : Type} (P : Protocol S State)

def Follows : Program S α → State → (α → State → Prop) → Prop
  | .done value, state, post => post value state
  | .perform op next, state, post =>
      P.allowed state op ∧
        ∀ reply, P.trusted state op reply → Follows (next reply) (P.after state op reply) post

@[simp] theorem follows_done (value : α) (state : State) (post : α → State → Prop) :
    P.Follows (.done value) state post ↔ post value state := Iff.rfl

theorem follows_mono {program : Program S α} {state : State} {post post' : α → State → Prop}
    (follows : P.Follows program state post)
    (weaker : ∀ value final, post value final → post' value final) :
    P.Follows program state post' := by
  induction program generalizing state with
  | done value => exact weaker value state follows
  | perform op next ih =>
      exact ⟨follows.1, fun reply trusted => ih reply (follows.2 reply trusted)⟩

theorem follows_bind {program : Program S α} {rest : α → Program S β} {state : State}
    {middle : α → State → Prop} {post : β → State → Prop}
    (first : P.Follows program state middle)
    (second : ∀ value final, middle value final → P.Follows (rest value) final post) :
    P.Follows (program >>= rest) state post := by
  induction program generalizing state with
  | done value => exact second value state first
  | perform op next ih =>
      exact ⟨first.1, fun reply trusted => ih reply (first.2 reply trusted)⟩

theorem follows_request {op : S.Op} {rest : S.Reply op → Program S β} {state : State}
    {post : β → State → Prop} (allowed : P.allowed state op)
    (next : ∀ reply, P.trusted state op reply →
      P.Follows (rest reply) (P.after state op reply) post) :
    P.Follows (Program.request op >>= rest) state post :=
  ⟨allowed, next⟩

theorem follows_only {kind : S.Op → Prop} {holds : State → Prop}
    (allowed : ∀ state op, holds state → kind op → P.allowed state op)
    (kept : ∀ state op reply, holds state → kind op → P.trusted state op reply →
      holds (P.after state op reply))
    {program : Program S α} (only : program.Only kind) {state : State} (first : holds state) :
    P.Follows program state fun _ final => holds final := by
  induction program generalizing state with
  | done value => exact first
  | perform op next ih =>
      exact ⟨allowed state op first only.1, fun reply trusted =>
        ih reply (only.2 reply) (kept state op reply first only.1 trusted)⟩

section Attempts

variable {Failure : Type} {state : State} {post : Except Failure β → State → Prop}

theorem follows_attempt {program : ExceptT Failure (Program S) α}
    {rest : α → ExceptT Failure (Program S) β} {middle : Except Failure α → State → Prop}
    (first : P.Follows program.run state middle)
    (raised : ∀ failure final, middle (.error failure) final → post (.error failure) final)
    (next : ∀ value final, middle (.ok value) final → P.Follows (rest value).run final post) :
    P.Follows (program >>= rest).run state post := by
  apply P.follows_bind first
  intro result final holds
  cases result with
  | error failure => exact raised failure final holds
  | ok value => exact next value final holds

theorem follows_lift {program : Program S α} {rest : α → ExceptT Failure (Program S) β}
    {middle : α → State → Prop} (first : P.Follows program state middle)
    (next : ∀ value final, middle value final → P.Follows (rest value).run final post) :
    P.Follows (ExceptT.lift program >>= rest).run state post := by
  have lifted : P.Follows (ExceptT.lift program : ExceptT Failure (Program S) α).run state
      fun result final => ∃ value, result = .ok value ∧ middle value final :=
    P.follows_bind first fun value final holds => ⟨value, rfl, holds⟩
  apply P.follows_attempt lifted
  · rintro failure final ⟨value, same, _⟩
    cases same
  · rintro value final ⟨_, same, holds⟩
    cases same
    exact next _ final holds

end Attempts

def guarded (guard : State → Prop) : Protocol S State where
  allowed state op := guard state → P.allowed state op
  trusted := P.trusted
  after := P.after

def keeping (guard : State → Prop) : Protocol S State where
  allowed := P.allowed
  trusted state op reply := P.trusted state op reply ∧ guard (P.after state op reply)
  after := P.after

theorem follows_guarded {guard : State → Prop} {program : Program S α} {state : State}
    {post : α → State → Prop}
    (lost : ∀ state op reply, guard (P.after state op reply) → guard state)
    (follows : guard state → (P.keeping guard).Follows program state post) :
    (P.guarded guard).Follows program state fun value final => guard final → post value final := by
  induction program generalizing state with
  | done value => exact follows
  | perform op next ih =>
      refine ⟨fun holds => (follows holds).1, fun reply trusted => ih reply fun holds => ?_⟩
      exact (follows (lost state op reply holds)).2 reply ⟨trusted, holds⟩

end Protocol

end AiPlatform
