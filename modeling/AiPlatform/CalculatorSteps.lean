import AiPlatform.Calculator
import Mathlib.Algebra.Order.Ring.Int
import Mathlib.Data.Nat.Log

/-!
The operations of a calculation one after another. The calculation stays within 500 * 128
digits and ends with a reply exactly when each power, product and sum would have passed a
test made on its operands, and what is printed is no complex number and has 4300 digits.
-/

namespace AiPlatform.Calculator

open Agents (strip)

variable {F C : Type} (lib : Library F C)

inductive Step (F C : Type)
  | literal (n : Int)
  | binary (op : BinaryOp) (left right : Number F C)
  | unary (op : UnaryOp) (operand : Number F C)
  | call (function : Function) (args : List (Number F C))

namespace Step

def perform : Step F C → Except Fault (Number F C)
  | .literal n => .ok (.int n)
  | .binary op left right => operate lib op left right
  | .unary op operand => .ok (Calculator.unary lib op operand)
  | .call function args => Calculator.call lib function args

def operands : Step F C → List (Number F C)
  | .literal n => [.int n]
  | .binary _ left right => [left, right]
  | .unary _ operand => [operand]
  | .call _ args => args

/-- The test of the operands: whether sums, products and powers of integers stay within a
bound. -/
def Within (largest : Nat) : Step F C → Prop
  | .binary .add (.int a) (.int b) => -largest - b ≤ a ∧ a ≤ largest - b
  | .binary .sub (.int a) (.int b) => b - largest ≤ a ∧ a ≤ largest + b
  | .binary .mult (.int a) (.int b) => a = 0 ∨ b.natAbs ≤ largest / a.natAbs
  | .binary .pow (.int a) (.int b) =>
      0 ≤ b → b ≤ maxExponent → a.natAbs ≤ 1 ∨ b.toNat ≤ Nat.log a.natAbs largest
  | .call .round [.int n, .int places] => (roundInt n (-places).toNat).natAbs ≤ largest
  | _ => True

end Step

mutual

/-- The operations that `evaluate` performs. -/
def steps : Expr F → List (Step F C)
  | .int n => [.literal n]
  | .float _ => []
  | .constant => []
  | .binOp op left right =>
      if op = .other then []
      else
        steps left ++
          match evaluate lib left with
          | .error _ => []
          | .ok leftValue =>
              steps right ++
                match evaluate lib right with
                | .error _ => []
                | .ok rightValue => [.binary op leftValue rightValue]
  | .unaryOp op operand =>
      if op = .other then []
      else
        steps operand ++
          match evaluate lib operand with
          | .error _ => []
          | .ok value => [.unary op value]
  | .name _ => []
  | .call func args keywords =>
      match functions.lookup func, keywords with
      | some function, false =>
          stepsAll args ++
            match evaluateAll lib args with
            | .error _ => []
            | .ok values => [.call function values]
      | _, _ => []
  | .other _ => []

def stepsAll : List (Expr F) → List (Step F C)
  | [] => []
  | arg :: args =>
      steps arg ++
        match evaluate lib arg with
        | .error _ => []
        | .ok _ => stepsAll args

end

inductive Stage (F C : Type)
  | operation (step : Step F C)
  | print (value : Number F C)

def Number.Printable : Number F C → Prop
  | .int n => n.natAbs < 10 ^ maxStrDigits
  | .float _ => True
  | .complex _ => False

def Stage.Within (largest : Nat) : Stage F C → Prop
  | .operation step => step.Within largest
  | .print value => value.Printable

def run (expr : Expr F) : List (Stage F C) :=
  (steps lib expr).map .operation ++
    match evaluate lib expr with
    | .error _ => []
    | .ok value => [.print value]

def Number.Bounded (largest : Nat) : Number F C → Prop
  | .int n => n.natAbs ≤ largest
  | .float _ => True
  | .complex _ => True

theorem Inexact.bounded (largest : Nat) (value : Inexact F C) : value.number.Bounded largest := by
  cases value <;> trivial

theorem map_bounded {α : Type} {largest : Nat} {first : Except Fault α} {f : α → Number F C}
    {value : Number F C} (ran : first.map f = .ok value) (bounded : ∀ a, (f a).Bounded largest) :
    value.Bounded largest := by
  cases first with
  | error fault => cases ran
  | ok a =>
      cases ran
      exact bounded a

variable {largest : Nat}

theorem natAbs_fdiv_le (a b : Int) : (a.fdiv b).natAbs ≤ a.natAbs := by
  rcases le_total 0 b with positive | negative
  · rw [Int.fdiv_eq_ediv_of_nonneg a positive]
    exact Int.natAbs_ediv_le_natAbs a b
  · rw [← Int.neg_fdiv_neg, Int.fdiv_eq_ediv_of_nonneg _ (by omega), ← Int.natAbs_neg a]
    exact Int.natAbs_ediv_le_natAbs _ _

theorem natAbs_fmod_le {a b : Int} (some : b ≠ 0) : (a.fmod b).natAbs ≤ b.natAbs := by
  have low := Int.emod_nonneg a some
  have high := Int.emod_lt a some
  rw [Int.fmod_eq_emod]
  split <;> omega

theorem mult_iff {a b : Int} :
    (a * b).natAbs ≤ largest ↔ a = 0 ∨ b.natAbs ≤ largest / a.natAbs := by
  rw [Int.natAbs_mul]
  rcases eq_or_ne a 0 with rfl | some
  · simp
  · have positive : 0 < a.natAbs := Int.natAbs_pos.mpr some
    rw [Nat.le_div_iff_mul_le positive, Nat.mul_comm]
    simp [some]

theorem pow_iff {a : Int} {n : Nat} (one : 1 ≤ largest) :
    (a ^ n).natAbs ≤ largest ↔ a.natAbs ≤ 1 ∨ n ≤ Nat.log a.natAbs largest := by
  rw [Int.natAbs_pow]
  by_cases small : a.natAbs ≤ 1
  · have power : a.natAbs ^ n ≤ 1 := (Nat.pow_le_pow_left small n).trans_eq (one_pow n)
    exact iff_of_true (power.trans one) (.inl small)
  · rw [Nat.le_log_iff_pow_le (by omega) (by omega)]
    simp [small]

theorem operate_eq_ok {op : BinaryOp} {left right value : Number F C} :
    operate lib op left right = .ok value ↔
      (op = .pow → exponentTooHigh lib right = .ok false) ∧ binary lib op left right = .ok value := by
  rw [operate]
  by_cases power : op = .pow
  · cases checked : exponentTooHigh lib right with
    | error fault => simp [power, bind, Except.bind]
    | ok high => cases high <;> simp [power, bind, Except.bind, throw, throwThe, MonadExceptOf.throw]
  · simp [power]

theorem binary_bounded {op : BinaryOp} {left right value : Number F C} (one : 1 ≤ largest)
    (ran : operate lib op left right = .ok value)
    (within : (Step.binary op left right : Step F C).Within largest)
    (leftBounded : left.Bounded largest) (rightBounded : right.Bounded largest) :
    value.Bounded largest := by
  obtain ⟨low, ran⟩ := (operate_eq_ok lib).mp ran
  rw [binary.eq_def] at ran
  split at ran
  · cases ran
    obtain ⟨least, most⟩ := within
    simp only [Number.Bounded]
    omega
  · cases ran
    obtain ⟨least, most⟩ := within
    simp only [Number.Bounded]
    omega
  · cases ran
    exact mult_iff.mpr within
  · split at ran
    · cases ran
    · cases ran
      exact (natAbs_fdiv_le _ _).trans leftBounded
  · split at ran
    · cases ran
    · rename_i some
      cases ran
      exact (natAbs_fmod_le some).trans rightBounded
  · split at ran
    · rename_i natural
      cases ran
      have few : _ := low rfl
      simp only [exponentTooHigh, Except.ok.injEq, decide_eq_false_iff_not] at few
      exact (pow_iff one).mpr (within natural (by omega))
    · exact map_bounded ran (Inexact.bounded largest)
  · exact map_bounded ran (Inexact.bounded largest)

theorem foldlM_mem {choose : Number F C → Number F C → Except Fault Bool}
    {first value : Number F C} {rest : List (Number F C)}
    (ran : rest.foldlM (fun kept item => do return if ← choose kept item then item else kept) first =
      .ok value) : value ∈ first :: rest := by
  induction rest generalizing first with
  | nil =>
      cases ran
      exact List.mem_cons_self
  | cons item rest ih =>
      rw [List.foldlM_cons] at ran
      cases chosen : choose first item with
      | error fault => simp [chosen, bind, Except.bind] at ran
      | ok swap =>
          simp only [chosen, bind, Except.bind, pure, Except.pure] at ran
          have kept := ih ran
          cases swap <;> simp at kept ⊢ <;> tauto

theorem call_bounded {function : Function} {args : List (Number F C)} {value : Number F C}
    (wide : 10 ^ maxFloatDigits ≤ largest) (ran : call lib function args = .ok value)
    (within : (Step.call function args : Step F C).Within largest)
    (bounded : ∀ arg ∈ args, arg.Bounded largest) : value.Bounded largest := by
  have cut : ∀ rounding (x : F), (lib.toInt rounding x).map Number.int = .ok value →
      value.Bounded largest := by
    intro rounding x ran
    cases whole : lib.toInt rounding x with
    | error fault => simp [whole, Except.map] at ran
    | ok n =>
        rw [whole] at ran
        cases ran
        exact (lib.toInt_lt rounding x n whole).le.trans wide
  rw [call.eq_def] at ran
  split at ran
  · cases ran
    exact (Int.natAbs_natCast _).trans_le (bounded _ List.mem_cons_self)
  · exact map_bounded ran fun _ => trivial
  · exact map_bounded ran fun _ => trivial
  · cases ran
    simpa using bounded
  · cases ran
    exact within
  · exact cut _ _ ran
  · exact map_bounded ran fun _ => trivial
  · cases ran
    simpa using bounded
  · exact cut _ _ ran
  · cases ran
    simpa using bounded
  · exact cut _ _ ran
  · exact bounded value (foldlM_mem ran)
  · exact bounded value (foldlM_mem ran)
  · exact map_bounded ran fun _ => trivial
  · exact map_bounded ran fun _ => trivial
  · exact map_bounded ran fun _ => trivial
  · exact map_bounded ran fun _ => trivial
  · exact map_bounded ran fun _ => trivial
  · cases ran

theorem unary_bounded {op : UnaryOp} {operand : Number F C} (bounded : operand.Bounded largest) :
    (unary lib op operand).Bounded largest := by
  cases operand with
  | int n =>
      rw [unary]
      split
      · simpa [Number.Bounded] using bounded
      · exact bounded
  | float x => exact Inexact.bounded largest _
  | complex z => exact Inexact.bounded largest _

theorem Step.bounded {step : Step F C} {value : Number F C} (wide : 10 ^ maxFloatDigits ≤ largest)
    (ran : step.perform lib = .ok value) (within : step.Within largest)
    (bounded : ∀ operand ∈ step.operands, operand.Bounded largest) : value.Bounded largest := by
  have one : 1 ≤ largest := le_trans (Nat.one_le_pow _ 10 (by omega)) wide
  cases step with
  | literal n =>
      cases ran
      exact bounded _ List.mem_cons_self
  | binary op left right =>
      exact binary_bounded lib one ran within (bounded _ List.mem_cons_self)
        (bounded _ (List.mem_cons_of_mem _ List.mem_cons_self))
  | unary op operand =>
      cases ran
      exact unary_bounded lib (bounded _ List.mem_cons_self)
  | call function args => exact call_bounded lib wide ran within bounded

/-- The values of a calculation and what its operations are made on are within the bound. -/
structure Kept (largest : Nat) (outcome : Except Fault (List (Number F C)))
    (performed : List (Step F C)) : Prop where
  values : ∀ values, outcome = .ok values → ∀ value ∈ values, value.Bounded largest
  operands : ∀ step ∈ performed, ∀ operand ∈ step.operands, operand.Bounded largest

theorem Kept.error {fault : Fault} {performed : List (Step F C)}
    (operands : ∀ step ∈ performed, ∀ operand ∈ step.operands, operand.Bounded largest) :
    Kept largest (.error fault) performed :=
  ⟨fun _ same => (nomatch same), operands⟩

theorem Kept.step (step : Step F C) (performed : List (Step F C))
    (wide : 10 ^ maxFloatDigits ≤ largest)
    (before : ∀ step ∈ performed, ∀ operand ∈ step.operands, operand.Bounded largest)
    (bounded : ∀ operand ∈ step.operands, operand.Bounded largest) (within : step.Within largest) :
    Kept largest ((step.perform lib).map fun value => [value]) (performed ++ [step]) where
  values := by
    intro values same value member
    cases ran : step.perform lib with
    | error fault => simp [ran, Except.map] at same
    | ok result =>
        rw [ran] at same
        cases same
        cases List.mem_singleton.mp member
        exact step.bounded lib wide ran within bounded
  operands := by
    intro other member
    rcases List.mem_append.mp member with earlier | last
    · exact before other earlier
    · cases List.mem_singleton.mp last
      exact bounded

mutual

theorem evaluate_kept (wide : 10 ^ maxFloatDigits ≤ largest) : (expr : Expr F) →
    (∀ n ∈ literals expr, n.natAbs ≤ largest) →
    (∀ step ∈ steps lib expr, step.Within largest) →
      Kept largest ((evaluate lib expr).map fun value => [value]) (steps lib expr)
  | .int n, small, _ => by
      have bounded : ∀ operand ∈ (Step.literal n : Step F C).operands, operand.Bounded largest := by
        intro operand member
        cases List.mem_singleton.mp member
        exact small n (by rw [literals]; exact List.mem_cons_self)
      rw [steps, evaluate]
      exact Kept.step lib (.literal n) [] wide (by simp) bounded trivial
  | .float x, _, _ => by
      rw [steps, evaluate]
      refine ⟨?_, by simp⟩
      intro values same value member
      cases same
      cases List.mem_singleton.mp member
      trivial
  | .constant, _, _ => by
      rw [steps, evaluate]
      exact .error (by simp)
  | .binOp op left right, small, within => by
      rw [literals] at small
      rw [steps] at within ⊢
      rw [evaluate]
      split at within
      · rename_i other
        rw [if_pos other, if_pos other]
        exact .error (by simp)
      · rename_i other
        rw [if_neg other, if_neg other]
        have leftKept := evaluate_kept wide left
          (fun n member => small n (List.mem_append_left _ member))
          (fun step member => within step (List.mem_append_left _ member))
        cases leftRan : evaluate lib left with
        | error fault =>
            rw [List.append_nil]
            exact .error leftKept.operands
        | ok leftValue =>
            rw [leftRan] at leftKept within
            have rightKept := evaluate_kept wide right
              (fun n member => small n (List.mem_append_right _ member))
              (fun step member => within step
                (List.mem_append_right _ (List.mem_append_left _ member)))
            have both : ∀ step ∈ steps lib left ++ steps lib right,
                ∀ operand ∈ step.operands, operand.Bounded largest := by
              intro step member
              exact (List.mem_append.mp member).elim (leftKept.operands step)
                (rightKept.operands step)
            cases rightRan : evaluate lib right with
            | error fault =>
                simp only [List.append_nil]
                exact .error both
            | ok rightValue =>
                rw [rightRan] at rightKept within
                rw [← List.append_assoc]
                refine Kept.step lib (.binary op leftValue rightValue) _ wide both ?_
                  (within _ (by simp))
                intro operand member
                rcases List.mem_pair.mp member with rfl | rfl
                · exact leftKept.values _ rfl _ List.mem_cons_self
                · exact rightKept.values _ rfl _ List.mem_cons_self
  | .unaryOp op operand, small, within => by
      rw [literals] at small
      rw [steps] at within ⊢
      rw [evaluate]
      split at within
      · rename_i other
        rw [if_pos other, if_pos other]
        exact .error (by simp)
      · rename_i other
        rw [if_neg other, if_neg other]
        have kept := evaluate_kept wide operand small
          (fun step member => within step (List.mem_append_left _ member))
        cases ran : evaluate lib operand with
        | error fault =>
            rw [List.append_nil]
            exact .error kept.operands
        | ok value =>
            rw [ran] at kept within
            exact Kept.step lib (.unary op value) _ wide kept.operands
              (kept.values _ rfl) trivial
  | .name id, _, _ => by
      rw [steps, evaluate]
      refine ⟨?_, by simp⟩
      intro values same value member
      split at same
      · cases same
        cases List.mem_singleton.mp member
        trivial
      · split at same
        · cases same
          cases List.mem_singleton.mp member
          trivial
        · cases same
  | .call func args keywords, small, within => by
      rw [literals] at small
      cases known : functions.lookup func with
      | none =>
          simp only [steps, evaluate, known]
          exact .error (by simp)
      | some function =>
          cases keywords with
          | true =>
              simp only [steps, evaluate, known]
              exact .error (by simp)
          | false =>
              simp only [steps, evaluate, known] at within ⊢
              have kept := evaluateAll_kept wide args small
                (fun step member => within step (List.mem_append_left _ member))
              cases ran : evaluateAll lib args with
              | error fault =>
                  simp only [List.append_nil]
                  exact .error kept.operands
              | ok values =>
                  rw [ran] at kept within
                  exact Kept.step lib (.call function values) _ wide kept.operands
                    (kept.values _ rfl) (within _ (by simp))
  | .other typeName, _, _ => by
      rw [steps, evaluate]
      exact .error (by simp)

theorem evaluateAll_kept (wide : 10 ^ maxFloatDigits ≤ largest) : (args : List (Expr F)) →
    (∀ n ∈ literalsAll args, n.natAbs ≤ largest) →
    (∀ step ∈ stepsAll lib args, step.Within largest) →
      Kept largest (evaluateAll lib args) (stepsAll lib args)
  | [], _, _ => by
      rw [stepsAll, evaluateAll]
      refine ⟨?_, by simp⟩
      rintro values same
      cases same
      simp
  | arg :: args, small, within => by
      rw [literalsAll] at small
      rw [stepsAll] at within ⊢
      rw [evaluateAll]
      have first := evaluate_kept wide arg
        (fun n member => small n (List.mem_append_left _ member))
        (fun step member => within step (List.mem_append_left _ member))
      cases ran : evaluate lib arg with
      | error fault =>
          rw [List.append_nil]
          exact .error first.operands
      | ok value =>
          rw [ran] at first within
          have others := evaluateAll_kept wide args
            (fun n member => small n (List.mem_append_right _ member))
            (fun step member => within step (List.mem_append_right _ member))
          refine ⟨?_, fun step member => (List.mem_append.mp member).elim (first.operands step)
            (others.operands step)⟩
          intro values same
          cases later : evaluateAll lib args with
          | error fault => simp [later, bind, Except.bind] at same
          | ok rest =>
              simp only [later, bind, Except.bind, pure, Except.pure, Except.ok.injEq] at same
              rw [← same]
              exact List.forall_mem_cons.mpr
                ⟨first.values _ rfl value List.mem_cons_self, others.values rest later⟩

end

theorem Step.within_of {step : Step F C} (one : 1 ≤ largest)
    (bounded : ∀ n, step.perform lib = .ok (.int n) → n.natAbs ≤ largest) :
    step.Within largest := by
  rw [Step.Within.eq_def]
  split
  · rename_i a b
    have sum := bounded (a + b) rfl
    omega
  · rename_i a b
    have difference := bounded (a - b) rfl
    omega
  · exact mult_iff.mp (bounded _ rfl)
  · rename_i a b
    intro natural low
    have few : exponentTooHigh lib (.int b) = .ok false := by
      rw [exponentTooHigh, decide_eq_false (by omega)]
    have power : Calculator.binary lib .pow (.int a) (.int b) = .ok (.int (a ^ b.toNat)) := by
      rw [Calculator.binary, if_pos natural]
    exact (pow_iff one).mp (bounded _ ((operate_eq_ok lib).mpr ⟨fun _ => few, power⟩))
  · exact bounded _ rfl
  · trivial

/-- `500 * 128` -/
def digitLimit : Nat := maxExpression * maxExponent

def Accepted (argument : String) : Prop :=
  strip argument ≠ "" ∧ (strip argument).length ≤ maxExpression

structure Bounded (parser : Parser F) (argument : String) : Prop where
  integers : Accepted argument → ∀ expr, parser.parse (strip argument) = .ok expr →
    ∀ step ∈ steps lib expr, ∀ n, step.perform lib = .ok (.int n) → n.natAbs < 10 ^ digitLimit
  reply : ∃ reply, calculator lib parser argument = .ok reply

def Fits (parser : Parser F) (argument : String) : Prop :=
  Accepted argument → ∀ expr, parser.parse (strip argument) = .ok expr →
    ∀ stage ∈ run lib expr, stage.Within (10 ^ digitLimit - 1)

theorem dumps_iff {expression : String} {value : Number F C} :
    (∃ reply, dumps expression value = .ok reply) ↔ value.Printable := by
  cases value with
  | int n =>
      rw [dumps, Number.Printable]
      split
      · rename_i long
        refine iff_of_false ?_ (Nat.not_lt.mpr long)
        rintro ⟨_, same⟩
        cases same
      · rename_i short
        exact iff_of_true ⟨_, rfl⟩ (Nat.not_le.mp short)
  | float x => exact iff_of_true ⟨_, rfl⟩ trivial
  | complex z =>
      refine iff_of_false ?_ id
      rintro ⟨_, same⟩
      cases same

theorem answer_iff {expression : String} {value : Number F C} :
    (∃ reply, answer lib expression value = .ok reply) ↔ value.Printable := by
  cases value with
  | int n =>
      rw [answer]
      · exact dumps_iff
      · intro _ same
        cases same
  | complex z =>
      rw [answer]
      · exact dumps_iff
      · intro _ same
        cases same
  | float x =>
      refine iff_of_true ?_ trivial
      rw [answer]
      cases finite : lib.isFinite x with
      | false => exact ⟨_, rfl⟩
      | true =>
          obtain ⟨rounded, rounds, remains⟩ := lib.roundTo_ten x finite
          obtain ⟨whole, cuts⟩ := lib.trunc_finite rounded remains
          have digits : 10 ^ maxFloatDigits ≤ 10 ^ maxStrDigits :=
            Nat.pow_le_pow_right (by omega) (by decide)
          have short : (Number.int whole : Number F C).Printable :=
            (lib.toInt_lt .trunc rounded whole cuts).trans_le digits
          simp only [Bool.not_true, Bool.false_eq_true, if_false, rounds, cuts, bind, Except.bind]
          split
          · exact dumps_iff.mpr short
          · exact dumps_iff.mpr trivial

theorem reply_iff {parser : Parser F} {argument : String} :
    (∃ reply, calculator lib parser argument = .ok reply) ↔
      (Accepted argument → ∀ expr, parser.parse (strip argument) = .ok expr →
        ∀ value, evaluate lib expr = .ok value → value.Printable) := by
  rw [calculator]
  split
  · rename_i empty
    exact iff_of_true ⟨_, rfl⟩ fun accepted => absurd empty accepted.1
  · rename_i some
    split
    · rename_i long
      exact iff_of_true ⟨_, rfl⟩ fun accepted => absurd accepted.2 (by omega)
    · rename_i short
      have accepted : Accepted argument := ⟨some, by omega⟩
      cases parsed : parser.parse (strip argument) with
      | error fault => exact iff_of_true ⟨_, rfl⟩ fun _ _ same => by cases same
      | ok expr =>
          simp only [accepted, forall_const, Except.ok.injEq, forall_eq', bind, Except.bind]
          cases evaluated : evaluate lib expr with
          | error fault => exact iff_of_true ⟨_, rfl⟩ fun _ same => by cases same
          | ok value =>
              simp only [Except.ok.injEq, forall_eq']
              exact answer_iff lib

theorem floats_fit : 10 ^ maxFloatDigits < 10 ^ digitLimit :=
  Nat.pow_lt_pow_right (by omega) (by decide)

theorem literals_fit {parser : Parser F} {argument : String} {expr : Expr F} {n : Int}
    (accepted : Accepted argument) (parsed : parser.parse (strip argument) = .ok expr)
    (member : n ∈ literals expr) : n.natAbs < 10 ^ digitLimit := by
  have digits : 16 ^ maxExpression ≤ (10 ^ 2) ^ maxExpression :=
    Nat.pow_le_pow_left (by omega) _
  calc n.natAbs
      < 16 ^ (strip argument).length := parser.literals_lt _ _ parsed n member
    _ ≤ 16 ^ maxExpression := Nat.pow_le_pow_right (by omega) accepted.2
    _ ≤ 10 ^ (2 * maxExpression) := by rwa [pow_mul]
    _ ≤ 10 ^ digitLimit := Nat.pow_le_pow_right (by omega) (by decide)

theorem lt_limit {n : Nat} : n < 10 ^ digitLimit ↔ n ≤ 10 ^ digitLimit - 1 := by
  have positive : 0 < 10 ^ digitLimit := Nat.pow_pos (by omega)
  omega

section Powers

variable {base : Expr F} {b : Int}

theorem operate_power : operate lib .pow (.int b) (.int 128) = .ok (.int (b ^ 128)) :=
  (operate_eq_ok lib).mpr ⟨fun _ => rfl, rfl⟩

theorem evaluate_power (evaluated : evaluate lib base = .ok (.int b)) :
    evaluate lib (.binOp .pow base (.int 128)) = .ok (.int (b ^ 128)) := by
  rw [evaluate, if_neg (by decide), evaluated, evaluate]
  exact operate_power lib

theorem power_step (evaluated : evaluate lib base = .ok (.int b)) :
    .binary .pow (.int b) (.int 128) ∈ steps lib (.binOp .pow base (.int 128)) := by
  rw [steps, if_neg (by decide), evaluated, evaluate]
  simp

theorem power_large (large : 10 ^ maxExpression ≤ b.natAbs) :
    ¬(b ^ maxExponent).natAbs < 10 ^ digitLimit := by
  have above : (10 ^ maxExpression) ^ maxExponent ≤ b.natAbs ^ maxExponent :=
    Nat.pow_le_pow_left large maxExponent
  have size : (b ^ maxExponent).natAbs = b.natAbs ^ maxExponent := Int.natAbs_pow b maxExponent
  rw [← size, ← pow_mul] at above
  rw [digitLimit]
  exact not_lt.mpr above

end Powers

/-- Fractions in place of floats. Of complex numbers there is one, the power of a negative
number to a fraction. -/
def fractions : Library Rat Unit where
  pi := 3.141592653589793
  e := 2.718281828459045
  binary
    | .pow, .int b, .float x =>
        if b < 0 ∧ x.den ≠ 1 then .ok (.complex ()) else .error ⟨.overflow, "math range error"⟩
    | _, _, _ => .error ⟨.overflow, "math range error"⟩
  unary _ value := value
  abs
    | .float x => .ok (if x < 0 then -x else x)
    | .complex _ => .error ⟨.overflow, "absolute value too large"⟩
  above x n := n < x
  toInt _ x :=
    if x.floor.natAbs < 10 ^ maxFloatDigits then .ok x.floor
    else .error ⟨.overflow, "cannot convert float infinity to integer"⟩
  roundTo x _ := .ok x
  math _ _ := .error ⟨.valueError, "math domain error"⟩
  less _ _ := .error ⟨.typeError, "'<' not supported"⟩
  wrongCall _ _ := "wrong arguments"
  isFinite x := x.floor.natAbs < 10 ^ maxFloatDigits
  same x n := x = n
  small x := -1000000000000000 < x && x < 1000000000000000
  toInt_lt := by
    intro _ x n cut
    split at cut
    · rename_i short
      cases cut
      exact short
    · cases cut
  roundTo_ten := fun x finite => ⟨x, rfl, finite⟩
  trunc_finite := by
    intro x finite
    exact ⟨x.floor, if_pos (of_decide_eq_true finite)⟩

def parserOf (text : String) (expr : Expr Rat)
    (short : ∀ n ∈ literals expr, n.natAbs < 16 ^ text.length) : Parser Rat where
  parse other :=
    if other = text then .ok expr else .error ⟨.syntaxError, "invalid syntax"⟩
  literals_lt := by
    intro other parsed same n member
    split at same
    · rename_i this
      cases same
      exact this ▸ short n member
    · cases same

theorem parse_parserOf {text : String} {expr : Expr Rat}
    {short : ∀ n ∈ literals expr, n.natAbs < 16 ^ text.length} (same : strip text = text) :
    (parserOf text expr short).parse (strip text) = .ok expr := by
  rw [same]
  exact if_pos rfl

/-- `((9**128)**128)**128` -/
def nested : Expr Rat :=
  .binOp .pow (.binOp .pow (.binOp .pow (.int 9) (.int 128)) (.int 128)) (.int 128)

/-- `(-8)**0.5` -/
def root : Expr Rat := .binOp .pow (.unaryOp .uSub (.int 8)) (.float 0.5)

end AiPlatform.Calculator
