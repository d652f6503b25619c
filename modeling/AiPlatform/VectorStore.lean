import Mathlib.Data.Rat.Defs
import Mathlib.Data.List.Basic

/-!
`app/services/vector_store.py`: collections of points with payloads, and the
translation of scope filters. The store itself answers a search: it may return
any of the points that meet the filter, as the index is approximate, but none
that does not.
-/

namespace AiPlatform.Vectors

inductive PayloadValue
  | null
  | str (value : String)
  | int (value : Int)
  | bool (value : Bool)
  deriving DecidableEq

abbrev Payload := List (String × PayloadValue)

abbrev Embedding := List Rat

inductive Distance
  | cosine | dot | euclid
  deriving DecidableEq

structure CollectionSpec where
  name : String
  vectorSize : Nat
  distance : Distance

structure VectorRecord where
  id : String
  vector : Embedding
  payload : Payload

structure SearchHit where
  id : String
  score : Rat
  payload : Payload

structure Collection where
  spec : CollectionSpec
  points : List VectorRecord

abbrev Collections := String → Option Collection

/-- A value a caller puts into `filters`. -/
inductive FilterValue
  | none
  | scalar (value : PayloadValue)
  | several (values : List PayloadValue)
  | other (typeName : String)

inductive Match
  | value (value : PayloadValue)
  | any (values : List PayloadValue)

structure FieldCondition where
  key : String
  condition : Match

structure TypeError where
  message : String
  deriving DecidableEq

def conditions : List (String × FilterValue) → Except TypeError (List FieldCondition)
  | [] => .ok []
  | (key, value) :: rest =>
      match value with
      | .none => conditions rest
      | .several values => (conditions rest).map (⟨key, .any values⟩ :: ·)
      | .scalar value => (conditions rest).map (⟨key, .value value⟩ :: ·)
      | .other typeName =>
          .error ⟨s!"Cannot express filter {key} ({typeName}) as a vector store filter. " ++
            "Refusing rather than searching unfiltered."⟩

/-- `_to_filter`. No condition at all is no filter. -/
def toFilter (filters : List (String × FilterValue)) :
    Except TypeError (Option (List FieldCondition)) :=
  (conditions filters).map fun found => if found.isEmpty then none else some found

def FieldCondition.holds (condition : FieldCondition) (payload : Payload) : Bool :=
  match payload.lookup condition.key with
  | none => false
  | some found =>
      match condition.condition with
      | .value value => found = value
      | .any values => values.contains found

/-- A payload meets a filter when it meets every `must` condition. -/
def admits (filter : Option (List FieldCondition)) (payload : Payload) : Bool :=
  match filter with
  | none => true
  | some conditions => conditions.all fun condition => condition.holds payload

/-- What one entry of `filters` demands of a payload. -/
def Demands (payload : Payload) (key : String) : FilterValue → Prop
  | .none => True
  | .scalar value => payload.lookup key = some value
  | .several values => ∃ found ∈ values, payload.lookup key = some found
  | .other _ => False

theorem holds_value (payload : Payload) (key : String) (value : PayloadValue) :
    FieldCondition.holds ⟨key, .value value⟩ payload = true ↔
      payload.lookup key = some value := by
  cases found : payload.lookup key <;> simp [FieldCondition.holds, found]

theorem holds_any (payload : Payload) (key : String) (values : List PayloadValue) :
    FieldCondition.holds ⟨key, .any values⟩ payload = true ↔
      ∃ found ∈ values, payload.lookup key = some found := by
  cases found : payload.lookup key with
  | none => simp [FieldCondition.holds, found]
  | some value =>
      simp only [FieldCondition.holds, found, List.contains_iff_mem, Option.some.injEq]
      constructor
      · intro member
        exact ⟨value, member, rfl⟩
      · rintro ⟨other, member, rfl⟩
        exact member

theorem all_conditions {filters : List (String × FilterValue)} {found : List FieldCondition}
    (translated : conditions filters = .ok found) (payload : Payload) :
    found.all (fun condition => condition.holds payload) = true ↔
      ∀ entry ∈ filters, Demands payload entry.1 entry.2 := by
  induction filters generalizing found with
  | nil =>
      cases translated
      simp
  | cons entry rest ih =>
      obtain ⟨key, value⟩ := entry
      cases value with
      | none =>
          rw [ih translated]
          simp [Demands]
      | scalar value =>
          simp only [conditions] at translated
          cases tail : conditions rest with
          | error message => simp [tail, Except.map] at translated
          | ok others =>
              simp only [tail, Except.map, Except.ok.injEq] at translated
              subst translated
              simp [ih tail, holds_value, Demands]
      | several values =>
          simp only [conditions] at translated
          cases tail : conditions rest with
          | error message => simp [tail, Except.map] at translated
          | ok others =>
              simp only [tail, Except.map, Except.ok.injEq] at translated
              subst translated
              simp [ih tail, holds_any, Demands]
      | other typeName => cases translated

theorem admits_toFilter {filters : List (String × FilterValue)}
    {filter : Option (List FieldCondition)} (translated : toFilter filters = .ok filter)
    (payload : Payload) :
    admits filter payload = true ↔ ∀ entry ∈ filters, Demands payload entry.1 entry.2 := by
  cases found : conditions filters with
  | error message => simp [toFilter, found, Except.map] at translated
  | ok others =>
      rw [← all_conditions found]
      simp only [toFilter, found, Except.map, Except.ok.injEq] at translated
      subst translated
      cases others <;> simp [admits]

namespace Collections

def set (collections : Collections) (name : String) (collection : Option Collection) :
    Collections :=
  fun other => if other = name then collection else collections other

def points (collections : Collections) (name : String) : List VectorRecord :=
  match collections name with
  | some collection => collection.points
  | none => []

def ensureCollection (collections : Collections) (spec : CollectionSpec) : Collections :=
  match collections spec.name with
  | some _ => collections
  | none => collections.set spec.name (some ⟨spec, []⟩)

def deleteCollection (collections : Collections) (name : String) : Collections :=
  collections.set name none

def overwrite (points : List VectorRecord) (record : VectorRecord) : List VectorRecord :=
  points.filter (fun point => point.id ≠ record.id) ++ [record]

/-- `none`: the store raises, as there is no such collection. -/
def upsert (collections : Collections) (name : String) (records : List VectorRecord) :
    Option Collections :=
  if records.isEmpty then some collections
  else (collections name).map fun collection =>
    collections.set name
      (some { collection with points := records.foldl overwrite collection.points })

/-- `delete(collection, ids=ids)` for ids that are not empty. -/
def delete (collections : Collections) (name : String) (ids : List String) : Collections :=
  match collections name with
  | none => collections
  | some collection =>
      collections.set name
        (some { collection with
          points := collection.points.filter fun point => !ids.contains point.id })

structure Answers (collections : Collections) (name : String)
    (filter : Option (List FieldCondition)) (limit : Nat) (scoreThreshold : Option Rat)
    (hits : List SearchHit) : Prop where
  bounded : hits.length ≤ limit
  above : ∀ hit ∈ hits, ∀ threshold ∈ scoreThreshold, threshold ≤ hit.score
  found : ∀ hit ∈ hits, ∃ point ∈ collections.points name,
    point.id = hit.id ∧ point.payload = hit.payload ∧ admits filter point.payload = true

@[simp] theorem set_same (collections : Collections) (name : String)
    (collection : Option Collection) : collections.set name collection name = collection := by
  simp [set]

theorem set_other (collections : Collections) {name other : String}
    (collection : Option Collection) (different : other ≠ name) :
    collections.set name collection other = collections other := by
  simp [set, different]

@[simp] theorem points_ensure (collections : Collections) (spec : CollectionSpec)
    (name : String) : (collections.ensureCollection spec).points name = collections.points name := by
  unfold ensureCollection
  split
  · rfl
  · rename_i missing
    by_cases same : name = spec.name
    · subst same
      simp [points, missing]
    · simp [points, set_other _ _ same]

theorem mem_overwrite {points : List VectorRecord} {record point : VectorRecord} :
    point ∈ overwrite points record ↔ point = record ∨ point ∈ points ∧ point.id ≠ record.id := by
  simp [overwrite, or_comm]

theorem mem_foldl_overwrite {points records : List VectorRecord} {point : VectorRecord}
    (member : point ∈ records.foldl overwrite points) : point ∈ points ∨ point ∈ records := by
  induction records generalizing points with
  | nil => exact .inl member
  | cons record rest ih =>
      rcases ih member with before | later
      · rcases mem_overwrite.mp before with rfl | ⟨old, _⟩
        · exact .inr (by simp)
        · exact .inl old
      · exact .inr (List.mem_cons_of_mem _ later)

theorem points_upsert {collections after : Collections} {name : String}
    {records : List VectorRecord} (written : collections.upsert name records = some after)
    (other : String) :
    after.points other =
      if other = name then records.foldl overwrite (collections.points name)
      else collections.points other := by
  unfold upsert at written
  split at written
  · rename_i empty
    cases written
    rw [List.isEmpty_iff.mp empty]
    by_cases same : other = name
    · rw [if_pos same, same, List.foldl_nil]
    · rw [if_neg same]
  · obtain ⟨collection, present, rfl⟩ := Option.map_eq_some_iff.mp written
    by_cases same : other = name
    · subst same
      simp [points, present]
    · rw [if_neg same, points, set_other _ _ same, points]

theorem foldl_overwrite_new {points records : List VectorRecord}
    (distinct : (records.map VectorRecord.id).Nodup)
    (new : ∀ point ∈ points, ∀ record ∈ records, point.id ≠ record.id) :
    records.foldl overwrite points = points ++ records := by
  induction records generalizing points with
  | nil => simp
  | cons record rest ih =>
      obtain ⟨fresh, distinct⟩ := List.nodup_cons.mp distinct
      have kept : overwrite points record = points ++ [record] := by
        rw [overwrite, List.filter_eq_self.mpr]
        intro point there
        simpa using new point there record (.head _)
      rw [List.foldl_cons, kept, ih distinct, List.append_assoc]
      · rfl
      · intro point there other listed
        rcases List.mem_append.mp there with old | own
        · exact new point old other (.tail _ listed)
        · rw [List.mem_singleton.mp own]
          exact fun same => fresh (List.mem_map.mpr ⟨other, listed, same.symm⟩)

theorem mem_points_upsert {collections after : Collections} {name other : String}
    {records : List VectorRecord} {point : VectorRecord}
    (written : collections.upsert name records = some after)
    (member : point ∈ after.points other) :
    point ∈ collections.points other ∨ other = name ∧ point ∈ records := by
  unfold upsert at written
  split at written
  · cases written
    exact .inl member
  · obtain ⟨collection, present, rfl⟩ := Option.map_eq_some_iff.mp written
    by_cases same : other = name
    · subst same
      simp only [points, set_same] at member
      rcases mem_foldl_overwrite member with before | new
      · exact .inl (by simpa [points, present] using before)
      · exact .inr ⟨rfl, new⟩
    · rw [points, set_other _ _ same] at member
      exact .inl member

theorem mem_points_delete {collections : Collections} {name other : String} {ids : List String}
    {point : VectorRecord} :
    point ∈ (collections.delete name ids).points other ↔
      point ∈ collections.points other ∧ (other = name → point.id ∉ ids) := by
  unfold delete
  split
  · rename_i missing
    constructor
    · intro member
      refine ⟨member, ?_⟩
      rintro rfl
      simp [points, missing] at member
    · exact And.left
  · rename_i collection present
    by_cases same : other = name
    · subst same
      simp [points, present]
    · simp [points, set_other _ _ same, same]

end Collections

end AiPlatform.Vectors
