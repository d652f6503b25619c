import AiPlatform.AuditTrail

/-!
What redaction leaves of the metadata of an audit record. A place in a value is a path of
keys and positions; what `redact` makes of a value is said place by place, up to the depth
at which it stops and below it.
-/

namespace AiPlatform.Audit

open Agents (Json)
open Accounts (Casing)

inductive Step
  | field (key : String)
  | item (place : Nat)

/-- What stands at a place of a value. -/
inductive At : Json → List Step → Json → Prop
  | here (value : Json) : At value [] value
  | field {fields : List (String × Json)} {key : String} {child found : Json} {rest : List Step}
      (listed : (key, child) ∈ fields) (below : At child rest found) :
      At (.obj fields) (.field key :: rest) found
  | item {items : List Json} {place : Nat} {child found : Json} {rest : List Step}
      (listed : items[place]? = some child) (below : At child rest found) :
      At (.arr items) (.item place :: rest) found

def sensitive (casing : Casing) (key : String) : Bool := redactKeys.contains (casing.lower key)

def Step.sensitive (casing : Casing) : Step → Bool
  | .field key => Audit.sensitive casing key
  | .item _ => false

def marker : Json := .str "[REDACTED]"

/-- Two values that differ below their first level only. -/
inductive SameShell : Json → Json → Prop
  | same (value : Json) : SameShell value value
  | fields {old new : List (String × Json)} (keys : new.map (·.1) = old.map (·.1)) :
      SameShell (.obj old) (.obj new)
  | items {old new : List Json} (length : new.length = old.length) :
      SameShell (.arr old) (.arr new)

section Places

variable {casing : Casing} {value child found new : Json} {key : String} {path rest front : List Step}
  {depth : Nat}

theorem at_nil : At value [] found ↔ found = value := by
  constructor
  · intro placed
    cases placed
    rfl
  · rintro rfl
    exact .here _

theorem at_field : At value (.field key :: rest) found ↔
    ∃ fields child, value = .obj fields ∧ (key, child) ∈ fields ∧ At child rest found := by
  constructor
  · intro placed
    cases placed with
    | field listed below => exact ⟨_, _, rfl, listed, below⟩
  · rintro ⟨fields, child, rfl, listed, below⟩
    exact .field listed below

theorem at_item {place : Nat} : At value (.item place :: rest) found ↔
    ∃ items child, value = .arr items ∧ items[place]? = some child ∧ At child rest found := by
  constructor
  · intro placed
    cases placed with
    | item listed below => exact ⟨_, _, rfl, listed, below⟩
  · rintro ⟨items, child, rfl, listed, below⟩
    exact .item listed below

def redactField (casing : Casing) (depth : Nat) (key : String) (value : Json) : Json :=
  if sensitive casing key then marker else redactTo casing depth value

theorem redactTo_obj (depth : Nat) (fields : List (String × Json)) :
    redactTo casing (depth + 1) (.obj fields) =
      .obj (fields.map fun (key, value) => (key, redactField casing depth key value)) := rfl

theorem redactTo_arr (depth : Nat) (items : List Json) :
    redactTo casing (depth + 1) (.arr items) = .arr (items.map (redactTo casing depth)) := rfl

theorem sameShell_redactTo (depth : Nat) (value : Json) :
    SameShell value (redactTo casing depth value) := by
  cases depth with
  | zero => exact .same value
  | succ depth =>
      cases value with
      | obj fields =>
          rw [redactTo_obj]
          exact .fields (by simp)
      | arr items =>
          rw [redactTo_arr]
          exact .items (by simp)
      | _ => exact .same _

theorem at_redactTo_field :
    At (redactTo casing (depth + 1) value) (.field key :: rest) found ↔
      ∃ fields child, value = .obj fields ∧ (key, child) ∈ fields ∧
        At (redactField casing depth key child) rest found := by
  rw [at_field]
  constructor
  · rintro ⟨fields, child, same, listed, below⟩
    cases value with
    | obj old =>
        rw [redactTo_obj, Json.obj.injEq] at same
        subst same
        obtain ⟨⟨other, before⟩, member, pair⟩ := List.mem_map.mp listed
        cases pair
        exact ⟨old, before, rfl, member, below⟩
    | _ => cases same
  · rintro ⟨fields, child, rfl, listed, below⟩
    exact ⟨_, _, redactTo_obj depth fields, List.mem_map.mpr ⟨_, listed, rfl⟩, below⟩

theorem at_redactTo_item {place : Nat} :
    At (redactTo casing (depth + 1) value) (.item place :: rest) found ↔
      ∃ items child, value = .arr items ∧ items[place]? = some child ∧
        At (redactTo casing depth child) rest found := by
  rw [at_item]
  constructor
  · rintro ⟨items, child, same, listed, below⟩
    cases value with
    | arr old =>
        rw [redactTo_arr, Json.arr.injEq] at same
        subst same
        rw [List.getElem?_map] at listed
        obtain ⟨before, member, rfl⟩ := Option.map_eq_some_iff.mp listed
        exact ⟨old, before, rfl, member, below⟩
    | _ => cases same
  · rintro ⟨items, child, rfl, listed, below⟩
    refine ⟨_, _, redactTo_arr depth items, ?_, below⟩
    rw [List.getElem?_map, listed]
    rfl

theorem at_redactTo_clear
    (clear : ∀ step ∈ path.take depth, step.sensitive casing = false) :
    At (redactTo casing depth value) path new ↔
      ∃ old, At value path old ∧ new = redactTo casing (depth - path.length) old := by
  induction path generalizing depth value with
  | nil =>
      simp only [at_nil, List.length_nil, Nat.sub_zero]
      exact ⟨fun same => ⟨value, rfl, same⟩, fun ⟨old, here, same⟩ => here ▸ same⟩
  | cons step rest ih =>
      cases depth with
      | zero =>
          rw [Nat.zero_sub]
          exact ⟨fun placed => ⟨new, placed, rfl⟩, fun ⟨old, placed, same⟩ => same ▸ placed⟩
      | succ depth =>
          rw [List.take_succ_cons] at clear
          obtain ⟨first, later⟩ := List.forall_mem_cons.mp clear
          rw [List.length_cons, Nat.add_sub_add_right]
          cases step with
          | field key =>
              have first : sensitive casing key = false := first
              have goesOn : ∀ child, redactField casing depth key child =
                  redactTo casing depth child := fun child => if_neg (by simp [first])
              rw [at_redactTo_field]
              simp only [goesOn, ih later, at_field]
              constructor
              · rintro ⟨fields, child, same, listed, old, below, result⟩
                exact ⟨old, ⟨fields, child, same, listed, below⟩, result⟩
              · rintro ⟨old, ⟨fields, child, same, listed, below⟩, result⟩
                exact ⟨fields, child, same, listed, old, below, result⟩
          | item place =>
              rw [at_redactTo_item]
              simp only [ih later, at_item]
              constructor
              · rintro ⟨items, child, same, listed, old, below, result⟩
                exact ⟨old, ⟨items, child, same, listed, below⟩, result⟩
              · rintro ⟨old, ⟨items, child, same, listed, below⟩, result⟩
                exact ⟨items, child, same, listed, old, below, result⟩

theorem at_marker : At marker path found → path = [] ∧ found = marker := by
  intro placed
  cases placed
  exact ⟨rfl, rfl⟩

theorem at_redactTo_sensitive (above : front.length < depth)
    (hides : sensitive casing key = true)
    (placed : At (redactTo casing depth value) (front ++ [.field key]) found) :
    found = marker := by
  induction front generalizing depth value with
  | nil =>
      obtain ⟨depth, rfl⟩ : ∃ less, depth = less + 1 := Nat.exists_eq_add_one.mpr above
      obtain ⟨fields, child, rfl, listed, below⟩ := at_redactTo_field.mp placed
      rw [redactField, if_pos hides] at below
      exact (at_marker below).2
  | cons step front ih =>
      obtain ⟨depth, rfl⟩ : ∃ less, depth = less + 1 :=
        Nat.exists_eq_add_one.mpr (Nat.zero_lt_of_lt above)
      have inside : front.length < depth := Nat.lt_of_succ_lt_succ above
      cases step with
      | field other =>
          obtain ⟨fields, child, rfl, listed, below⟩ := at_redactTo_field.mp placed
          rw [redactField] at below
          split at below
          · have bare := (at_marker below).1
            simp at bare
          · exact ih inside below
      | item place =>
          obtain ⟨items, child, rfl, listed, below⟩ := at_redactTo_item.mp placed
          exact ih inside below

theorem redactTo_twice (depth : Nat) (value : Json) :
    redactTo casing depth (redactTo casing depth value) = redactTo casing depth value := by
  induction depth generalizing value with
  | zero => rfl
  | succ depth ih =>
      cases value with
      | obj fields =>
          simp only [redactTo_obj, List.map_map]
          refine congrArg Json.obj (List.map_congr_left fun (key, value) _ => ?_)
          refine congrArg (Prod.mk key) ?_
          change redactField casing depth key (redactField casing depth key value) = _
          unfold redactField
          split
          · rfl
          · exact ih value
      | arr items =>
          simp only [redactTo_arr, List.map_map]
          exact congrArg Json.arr (List.map_congr_left fun item _ => ih item)
      | _ => rfl

end Places

/-- Redaction hides what stands under a sensitive key behind at most six other steps, and
keeps everything else: the keys, the number of items and the scalars at every place that no
hidden key leads to, and whatever lies deeper. -/
structure Redacts (casing : Casing) (value : Json) : Prop where
  hidden : ∀ front key found, front.length ≤ 6 → sensitive casing key = true →
    At (redact casing value) (front ++ [.field key]) found → found = marker
  kept : ∀ path old, (∀ step ∈ path.take 7, step.sensitive casing = false) → At value path old →
    ∃ new, At (redact casing value) path new ∧ SameShell old new
  nothing : ∀ path new, (∀ step ∈ path.take 7, step.sensitive casing = false) →
    At (redact casing value) path new → ∃ old, At value path old ∧ SameShell old new
  deep : ∀ path old, 7 ≤ path.length → (∀ step ∈ path.take 7, step.sensitive casing = false) →
    At value path old → At (redact casing value) path old
  twice : redact casing (redact casing value) = redact casing value

theorem redacts (casing : Casing) (value : Json) : Redacts casing value where
  hidden front key found above hides placed :=
    at_redactTo_sensitive (Nat.lt_succ_of_le above) hides placed
  kept path old clear placed :=
    ⟨_, (at_redactTo_clear clear).mpr ⟨old, placed, rfl⟩, sameShell_redactTo _ old⟩
  nothing path new clear placed := by
    obtain ⟨old, before, rfl⟩ := (at_redactTo_clear clear).mp placed
    exact ⟨old, before, sameShell_redactTo _ old⟩
  deep path old below clear placed := by
    refine (at_redactTo_clear clear).mpr ⟨old, placed, ?_⟩
    rw [Nat.sub_eq_zero_of_le below]
    rfl
  twice := redactTo_twice 7 value

def nested (depth : Nat) (value : Json) : Json :=
  match depth with
  | 0 => value
  | depth + 1 => .obj [("nested", nested depth value)]

theorem at_nested {value found : Json} {path : List Step} (placed : At value path found)
    (depth : Nat) :
    At (nested depth value) (List.replicate depth (.field "nested") ++ path) found := by
  induction depth with
  | zero => exact placed
  | succ depth ih => exact .field List.mem_cons_self ih

/-- Inside seven other mappings a password is kept. -/
theorem a_deep_secret_is_kept : ∃ value front secret,
    sensitive ⟨id, id, id⟩ "password" = true ∧ secret ≠ marker ∧
      At (redact ⟨id, id, id⟩ value) (front ++ [.field "password"]) secret := by
  refine ⟨nested 7 (.obj [("password", .str "hunter2")]), List.replicate 7 (.field "nested"),
    .str "hunter2", by decide, by simp [marker], ?_⟩
  have placed : At (.obj [("password", .str "hunter2")]) [.field "password"] (.str "hunter2") :=
    .field List.mem_cons_self (.here _)
  refine (at_redactTo_clear ?_).mpr ⟨_, at_nested placed 7, rfl⟩
  intro step member
  rw [List.take_left' List.length_replicate] at member
  rw [List.eq_of_mem_replicate member]
  decide

end AiPlatform.Audit
