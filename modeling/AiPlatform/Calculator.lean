import AiPlatform.AgentModel

/-!
The calculator tool of `app/services/tool_executors.py`: `_evaluate` and `_calculator`.
Integers are computed here. Floats, complex numbers and Python's parser are parameters,
with what the tool relies on of them; a stack for five hundred characters is there.
-/

namespace AiPlatform.Calculator

open Agents (strip)

inductive FaultKind
  | syntaxError
  | zeroDivision
  | valueError
  | typeError
  | overflow
  | memory
  deriving DecidableEq

structure Fault where
  kind : FaultKind
  message : String
  deriving DecidableEq

inductive Number (F C : Type)
  | int (n : Int)
  | float (x : F)
  | complex (z : C)
  deriving DecidableEq

/-- The operators of `_BINARY_OPS`; `other` is none of them. -/
inductive BinaryOp
  | add
  | sub
  | mult
  | div
  | floorDiv
  | mod
  | pow
  | other
  deriving DecidableEq

/-- The operators of `_UNARY_OPS`; `other` is none of them. -/
inductive UnaryOp
  | uAdd
  | uSub
  | other
  deriving DecidableEq

inductive Function
  | abs
  | round
  | min
  | max
  | sum
  | sqrt
  | floor
  | ceil
  | log
  | log10
  | log2
  | exp
  deriving DecidableEq

/-- `_FUNCTIONS` -/
def functions : List (String × Function) :=
  [("abs", .abs), ("round", .round), ("min", .min), ("max", .max), ("sum", .sum),
    ("sqrt", .sqrt), ("floor", .floor), ("ceil", .ceil), ("log", .log), ("log10", .log10),
    ("log2", .log2), ("exp", .exp)]

inductive Rounding
  | trunc
  | floor
  | ceil
  | nearest

inductive Inexact (F C : Type)
  | float (x : F)
  | complex (z : C)

def Inexact.number {F C : Type} : Inexact F C → Number F C
  | .float x => .float x
  | .complex z => .complex z

def maxFloatDigits : Nat := 309

structure Library (F C : Type) where
  pi : F
  e : F
  /-- `left op right` unless it is an integer. -/
  binary : BinaryOp → Number F C → Number F C → Except Fault (Inexact F C)
  unary : UnaryOp → Inexact F C → Inexact F C
  abs : Inexact F C → Except Fault F
  /-- `x > n` -/
  above : F → Nat → Bool
  /-- `int(x)`, `math.floor(x)`, `math.ceil(x)`, `round(x)` -/
  toInt : Rounding → F → Except Fault Int
  /-- `round(x, n)` -/
  roundTo : F → Int → Except Fault F
  /-- The functions of `math` whose result is a float. -/
  math : Function → List (Number F C) → Except Fault F
  /-- `left < right`, for `min` and `max` -/
  less : Number F C → Number F C → Except Fault Bool
  /-- What a call with the wrong arguments says. -/
  wrongCall : Function → List (Number F C) → String
  isFinite : F → Bool
  /-- `x == n` -/
  same : F → Int → Bool
  /-- `abs(x) < 1e15` -/
  small : F → Bool
  toInt_lt : ∀ rounding x n, toInt rounding x = .ok n → n.natAbs < 10 ^ maxFloatDigits
  /-- Rounding to ten places and cutting the rest off do not fail on a finite float. -/
  roundTo_ten : ∀ x, isFinite x → ∃ y, roundTo x 10 = .ok y ∧ isFinite y
  trunc_finite : ∀ x, isFinite x → ∃ n, toInt .trunc x = .ok n

/-- The nodes of a parsed expression, as far as `_evaluate` tells them apart. -/
inductive Expr (F : Type)
  | int (n : Int)
  | float (x : F)
  /-- A bool, a string or another constant that is no number. -/
  | constant
  | binOp (op : BinaryOp) (left right : Expr F)
  | unaryOp (op : UnaryOp) (operand : Expr F)
  | name (id : String)
  /-- A call of a name; any other call is `other`. -/
  | call (func : String) (args : List (Expr F)) (keywords : Bool)
  | other (typeName : String)

variable {F C : Type} (lib : Library F C)

/-- `_MAX_EXPONENT` -/
def maxExponent : Nat := 128

/-- `_MAX_EXPRESSION` -/
def maxExpression : Nat := 500

/-- `round(n, -k)`: to the nearest multiple of `10 ** k`, halves to the even one. -/
def roundInt (n : Int) (k : Nat) : Int :=
  let unit := (10 : Int) ^ k
  let quotient := n.fdiv unit
  let rest := n.fmod unit
  if 2 * rest < unit || (2 * rest = unit && quotient % 2 = 0) then quotient * unit
  else (quotient + 1) * unit

def binary (op : BinaryOp) (left right : Number F C) : Except Fault (Number F C) :=
  match op, left, right with
  | .add, .int a, .int b => .ok (.int (a + b))
  | .sub, .int a, .int b => .ok (.int (a - b))
  | .mult, .int a, .int b => .ok (.int (a * b))
  | .floorDiv, .int a, .int b =>
      if b = 0 then .error ⟨.zeroDivision, "integer division or modulo by zero"⟩
      else .ok (.int (a.fdiv b))
  | .mod, .int a, .int b =>
      if b = 0 then .error ⟨.zeroDivision, "integer modulo by zero"⟩ else .ok (.int (a.fmod b))
  | .pow, .int a, .int b =>
      if 0 ≤ b then .ok (.int (a ^ b.toNat))
      else (lib.binary .pow (.int a) (.int b)).map Inexact.number
  | op, left, right => (lib.binary op left right).map Inexact.number

/-- `abs(right) > _MAX_EXPONENT` -/
def exponentTooHigh : Number F C → Except Fault Bool
  | .int n => .ok (maxExponent < n.natAbs)
  | .float x => (lib.abs (.float x)).map fun size => lib.above size maxExponent
  | .complex z => (lib.abs (.complex z)).map fun size => lib.above size maxExponent

/-- The operation of a `BinOp` on its two values. -/
def operate (op : BinaryOp) (left right : Number F C) : Except Fault (Number F C) := do
  if op = .pow then
    if ← exponentTooHigh lib right then
      throw ⟨.valueError, s!"exponent above {maxExponent} is not allowed"⟩
  binary lib op left right

def unary (op : UnaryOp) : Number F C → Number F C
  | .int n => if op = .uSub then .int (-n) else .int n
  | .float x => (lib.unary op (.float x)).number
  | .complex z => (lib.unary op (.complex z)).number

def less (left right : Number F C) : Except Fault Bool :=
  match left, right with
  | .int a, .int b => .ok (a < b)
  | left, right => lib.less left right

/-- `min(first, *rest)`, the first of the least values. -/
def smallest (first : Number F C) (rest : List (Number F C)) : Except Fault (Number F C) :=
  rest.foldlM (fun least item => do return if ← less lib item least then item else least) first

/-- `max(first, *rest)`, the first of the greatest values. -/
def greatest (first : Number F C) (rest : List (Number F C)) : Except Fault (Number F C) :=
  rest.foldlM (fun most item => do return if ← less lib most item then item else most) first

/-- `_FUNCTIONS[name](*args)`; `sum` asks for an iterable, and no value is one. -/
def call (function : Function) (args : List (Number F C)) : Except Fault (Number F C) :=
  match function, args with
  | .abs, [.int n] => .ok (.int n.natAbs)
  | .abs, [.float x] => (lib.abs (.float x)).map .float
  | .abs, [.complex z] => (lib.abs (.complex z)).map .float
  | .round, [.int n] => .ok (.int n)
  | .round, [.int n, .int places] => .ok (.int (roundInt n (-places).toNat))
  | .round, [.float x] => (lib.toInt .nearest x).map .int
  | .round, [.float x, .int places] => (lib.roundTo x places).map .float
  | .floor, [.int n] => .ok (.int n)
  | .floor, [.float x] => (lib.toInt .floor x).map .int
  | .ceil, [.int n] => .ok (.int n)
  | .ceil, [.float x] => (lib.toInt .ceil x).map .int
  | .min, first :: second :: rest => smallest lib first (second :: rest)
  | .max, first :: second :: rest => greatest lib first (second :: rest)
  | .sqrt, args => (lib.math .sqrt args).map .float
  | .log, args => (lib.math .log args).map .float
  | .log10, args => (lib.math .log10 args).map .float
  | .log2, args => (lib.math .log2 args).map .float
  | .exp, args => (lib.math .exp args).map .float
  | function, args => .error ⟨.typeError, lib.wrongCall function args⟩

/-- The last line of `_evaluate`. -/
def notAllowed (typeName : String) : Fault :=
  ⟨.valueError, s!"{typeName} is not allowed in an expression"⟩

mutual

def evaluate : Expr F → Except Fault (Number F C)
  | .int n => .ok (.int n)
  | .float x => .ok (.float x)
  | .constant => .error ⟨.valueError, "only numbers are allowed"⟩
  | .binOp op left right =>
      if op = .other then .error (notAllowed "BinOp")
      else do
        let left ← evaluate left
        let right ← evaluate right
        operate lib op left right
  | .unaryOp op operand =>
      if op = .other then .error (notAllowed "UnaryOp")
      else do
        let operand ← evaluate operand
        return unary lib op operand
  | .name id =>
      if id = "pi" then .ok (.float lib.pi)
      else if id = "e" then .ok (.float lib.e)
      else .error (notAllowed "Name")
  | .call func args keywords =>
      match functions.lookup func, keywords with
      | some function, false => do
          let args ← evaluateAll args
          call lib function args
      | _, _ => .error ⟨.valueError, s!"unknown function '{func}'"⟩
  | .other typeName => .error (notAllowed typeName)

def evaluateAll : List (Expr F) → Except Fault (List (Number F C))
  | [] => .ok []
  | arg :: args => do
      let value ← evaluate arg
      let values ← evaluateAll args
      return value :: values

end

inductive Reply (F C : Type)
  | error (expression : Option String) (message : String)
  | result (expression : String) (value : Number F C)
  deriving DecidableEq

/-- What `_calculator` says of a fault that it catches. -/
def Fault.reply (fault : Fault) : String :=
  match fault.kind with
  | .syntaxError => "That is not a valid expression."
  | .zeroDivision => "Division by zero."
  | _ => fault.message

/-- `sys.int_info.default_max_str_digits` -/
def maxStrDigits : Nat := 4300

/-- `json.dumps({"expression": expression, "result": value})` -/
def dumps (expression : String) : Number F C → Except Fault (Reply F C)
  | .int n =>
      if 10 ^ maxStrDigits ≤ n.natAbs then
        .error ⟨.valueError, "Exceeds the limit (4300 digits) for integer string conversion; " ++
          "use sys.set_int_max_str_digits() to increase the limit"⟩
      else .ok (.result expression (.int n))
  | .float x => .ok (.result expression (.float x))
  | .complex _ => .error ⟨.typeError, "Object of type complex is not JSON serializable"⟩

/-- What comes behind the `try`. -/
def answer (expression : String) : Number F C → Except Fault (Reply F C)
  | .float x =>
      if !lib.isFinite x then .ok (.error (some expression) "Result is not a finite number.")
      else do
        let rounded ← lib.roundTo x 10
        let whole ← lib.toInt .trunc rounded
        dumps expression
          (if lib.same rounded whole && lib.small rounded then .int whole else .float rounded)
  | value => dumps expression value

mutual

def literals : Expr F → List Int
  | .int n => [n]
  | .float _ => []
  | .constant => []
  | .binOp _ left right => literals left ++ literals right
  | .unaryOp _ operand => literals operand
  | .name _ => []
  | .call _ args _ => literalsAll args
  | .other _ => []

def literalsAll : List (Expr F) → List Int
  | [] => []
  | arg :: args => literals arg ++ literalsAll args

end

/-- Python's parser, with what it says of a text that is no expression. A literal has no
more digits than the text has characters, in base sixteen at most. -/
structure Parser (F : Type) where
  parse : String → Except Fault (Expr F)
  literals_lt : ∀ text expr, parse text = .ok expr → ∀ n ∈ literals expr,
    n.natAbs < 16 ^ text.length

/-- `_calculator`; `argument` is `str(arguments.get("expression") or "")`. -/
def calculator (parser : Parser F) (argument : String) : Except Fault (Reply F C) :=
  let expression := strip argument
  if expression = "" then .ok (.error none "No expression was given.")
  else if maxExpression < expression.length then
    .ok (.error none s!"Expression longer than {maxExpression} characters.")
  else
    match parser.parse expression >>= evaluate lib with
    | .error fault => .ok (.error (some expression) fault.reply)
    | .ok value => answer lib expression value

end AiPlatform.Calculator
