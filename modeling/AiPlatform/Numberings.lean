import Mathlib.Data.List.Sort
import Mathlib.Data.List.Nodup

/-!
Items that carry the numbers of their places. Sorting by number puts every item into
the place whose number only it has if and only if the numbers are those of the places,
each once.
-/

namespace AiPlatform.Numberings

variable {α : Type} (number : α → Int) (items : List α)

def holder (place : Int) : Option α :=
  match items.filter fun item => number item = place with
  | [item] => some item
  | _ => none

/-- Python's `sorted` is stable. -/
def ordered : List α := items.insertionSort fun left right => number left ≤ number right

def places (count : Nat) : List Int := (List.range count).map Int.ofNat

/-- The numbers are `0, 1, …`, each once. -/
def Numbered : Prop := (items.map number).Perm (places items.length)

variable {number items}

theorem ordered_perm : (ordered number items).Perm items := List.perm_insertionSort _ _

theorem ordered_rising : ((ordered number items).map number).Pairwise fun left right => left ≤ right := by
  have total : Std.Total fun left right : α => number left ≤ number right :=
    ⟨fun left right => le_total (number left) (number right)⟩
  have trans : IsTrans α fun left right : α => number left ≤ number right :=
    ⟨fun _ _ _ first second => first.trans second⟩
  rw [List.pairwise_map]
  exact List.pairwise_insertionSort _ items

theorem holder_some {place : Int} {item : α} (held : holder number items place = some item) :
    item ∈ items ∧ number item = place := by
  unfold holder at held
  split at held
  · rename_i only same
    cases held
    have member : item ∈ items.filter fun item => number item = place := by simp [same]
    simpa using member
  · cases held

theorem filter_own_key {κ : Type} [DecidableEq κ] {key : α → κ}
    (distinct : (items.map key).Nodup) {item : α} (member : item ∈ items) :
    (items.filter fun other => key other = key item) = [item] := by
  have found : item ∈ items.filter fun other => key other = key item :=
    List.mem_filter.mpr ⟨member, by simp⟩
  have single : ∀ other ∈ items.filter fun other => key other = key item, other = item := by
    intro other listed
    obtain ⟨listed, same⟩ := List.mem_filter.mp listed
    exact List.inj_on_of_nodup_map distinct listed member (by simpa using same)
  have once : (items.filter fun other => key other = key item).Nodup :=
    (List.Nodup.of_map key distinct).filter _
  exact List.perm_singleton.mp
    ((List.perm_ext_iff_of_nodup once (List.nodup_singleton item)).mpr fun other => by
      rw [List.mem_singleton]
      exact ⟨single other, fun same => same ▸ found⟩)

theorem holder_of_nodup (distinct : (items.map number).Nodup) {item : α} (member : item ∈ items) :
    holder number items (number item) = some item := by
  rw [holder, filter_own_key distinct member]

theorem mem_places {count : Nat} {place : Nat} : (place : Int) ∈ places count ↔ place < count := by
  simp only [places, List.mem_map, List.mem_range]
  constructor
  · rintro ⟨found, below, same⟩
    rwa [← Int.ofNat.inj same]
  · intro below
    exact ⟨place, below, rfl⟩

theorem nodup_places (count : Nat) : (places count).Nodup :=
  List.nodup_range.map fun _ _ => Int.ofNat.inj

theorem rising_places (count : Nat) :
    (places count).Pairwise fun left right => left ≤ right := by
  rw [places, List.pairwise_map]
  exact List.pairwise_lt_range.imp fun smaller => Int.ofNat_le.mpr (Nat.le_of_lt smaller)

theorem Numbered.holder_ordered (numbered : Numbered number items) (place : Nat) :
    (ordered number items)[place]? = holder number items place := by
  have same : (ordered number items).map number = places items.length :=
    List.Perm.eq_of_pairwise (fun _ _ _ _ => Int.le_antisymm) ordered_rising
      (rising_places items.length) ((ordered_perm.map number).trans numbered)
  have distinct : (items.map number).Nodup := numbered.nodup_iff.mpr (nodup_places _)
  cases found : (ordered number items)[place]? with
  | some item =>
      have own : number item = place := by
        have own := congrArg (fun numbers => numbers[place]?) same
        obtain ⟨small, _⟩ := List.getElem?_eq_some_iff.mp found
        rw [ordered_perm.length_eq] at small
        simp only [List.getElem?_map, found, Option.map_some, places,
          List.getElem?_range small] at own
        exact Option.some.inj own
      rw [← own]
      exact (holder_of_nodup distinct (ordered_perm.mem_iff.mp (List.mem_of_getElem? found))).symm
  | none =>
      cases held : holder number items place with
      | none => rfl
      | some item =>
          obtain ⟨member, own⟩ := holder_some held
          have listed : number item ∈ places items.length :=
            numbered.mem_iff.mp (List.mem_map_of_mem member)
          rw [own, mem_places] at listed
          have long := List.getElem?_eq_none_iff.mp found
          rw [ordered_perm.length_eq] at long
          omega

theorem numbered_of_held
    (held : ∀ place < items.length, (holder number items place).isSome = true) :
    Numbered number items := by
  have within : places items.length ⊆ items.map number := by
    intro place listed
    obtain ⟨index, inside, rfl⟩ := List.mem_map.mp listed
    obtain ⟨item, found⟩ := Option.isSome_iff_exists.mp (held index (List.mem_range.mp inside))
    obtain ⟨member, own⟩ := holder_some found
    exact List.mem_map.mpr ⟨item, member, own⟩
  have all : (places items.length).Subperm (items.map number) :=
    List.subperm_of_subset (nodup_places items.length) within
  exact (all.perm_of_length_le (by simp [places])).symm

end AiPlatform.Numberings
