/-!
`app/core/errors.py`: the errors that services raise. The API turns one into a
response, and the session of the request is rolled back.
-/

namespace AiPlatform

inductive ErrorKind
  | validation | notFound | conflict | dependencyUnavailable | authentication
  deriving DecidableEq

structure AppError where
  kind : ErrorKind
  message : String
  details : List (String × String)
  deriving DecidableEq

def validationError (message : String) (details : List (String × String)) : AppError :=
  ⟨.validation, message, details⟩

def notFoundError (message : String) : AppError := ⟨.notFound, message, []⟩

def conflictError (message : String) (details : List (String × String)) : AppError :=
  ⟨.conflict, message, details⟩

def authenticationError (message : String) : AppError := ⟨.authentication, message, []⟩

/-- What refuses a request that writes rows: an error of its own, a constraint of
the database, or another exception. -/
inductive Refusal
  | app (error : AppError)
  | constraint (table : String)
  | raised (message : String)
  deriving DecidableEq

theorem bind_ok {Failure Value Result : Type} {first : Except Failure Value}
    {rest : Value → Except Failure Result} {result : Result} :
    (first >>= rest) = .ok result ↔ ∃ value, first = .ok value ∧ rest value = .ok result := by
  cases first with
  | error failure => exact ⟨nofun, nofun⟩
  | ok value => exact ⟨fun same => ⟨value, rfl, same⟩, fun ⟨_, same, rest⟩ => by cases same; exact rest⟩

theorem bind_error {Failure Value Result : Type} {first : Except Failure Value}
    {rest : Value → Except Failure Result} {failure : Failure} :
    (first >>= rest) = .error failure ↔ first = .error failure ∨
      ∃ value, first = .ok value ∧ rest value = .error failure := by
  cases first with
  | error raised =>
      refine ⟨fun same => .inl (by cases same; rfl), ?_⟩
      rintro (same | ⟨_, same, _⟩)
      · cases same
        rfl
      · cases same
  | ok value =>
      refine ⟨fun same => .inr ⟨value, rfl, same⟩, ?_⟩
      rintro (same | ⟨_, same, rest⟩)
      · cases same
      · cases same
        exact rest

/-- `if condition: raise refusal` -/
def raiseIf (condition : Prop) [Decidable condition] (refusal : Refusal) : Except Refusal Unit :=
  if condition then .error refusal else .ok ()

@[simp] theorem raiseIf_ok {condition : Prop} [Decidable condition] {refusal : Refusal}
    {done : Unit} : raiseIf condition refusal = .ok done ↔ ¬ condition := by
  by_cases holds : condition <;> simp [raiseIf, holds]

theorem toOption_some {Failure Value : Type} {result : Except Failure Value} {value : Value} :
    result.toOption = some value ↔ result = .ok value := by
  cases result with
  | error failure => exact ⟨nofun, nofun⟩
  | ok other => simp [Except.toOption]

end AiPlatform
