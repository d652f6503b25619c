import Mathlib.Data.List.Sort
import Mathlib.Order.Defs.LinearOrder

/-!
The best few of a list by a score. `Best` is a relation, as candidates of one score
may come in any order. Candidates that are lost before the best are taken are
missed, unless enough of the others are as good.
-/

namespace AiPlatform.Rankings

variable {α β γ κ : Type} [LinearOrder β] {score : α → β} {limit : Nat}

/-- `chosen` are the best `limit` candidates, by falling score. -/
structure Best (score : α → β) (limit : Nat) (candidates chosen : List α) : Prop where
  falling : chosen.Pairwise fun one other => score other ≤ score one
  length : chosen.length = min limit candidates.length
  others : ∃ rest, candidates.Perm (chosen ++ rest) ∧
    ∀ one ∈ chosen, ∀ other ∈ rest, score other ≤ score one

theorem Best.subset {candidates chosen : List α} (best : Best score limit candidates chosen) :
    ∀ one ∈ chosen, one ∈ candidates := by
  obtain ⟨rest, perm, _⟩ := best.others
  exact fun one member => perm.mem_iff.mpr (List.mem_append_left rest member)

theorem best_nil : Best score limit [] [] :=
  ⟨.nil, by simp, [], .refl _, fun _ member => (nomatch member)⟩

theorem best_empty_iff {candidates : List α} (room : 0 < limit) :
    Best score limit candidates [] ↔ candidates = [] := by
  constructor
  · intro best
    have length := best.length
    rw [List.length_nil] at length
    exact List.length_eq_zero_iff.mp (by omega)
  · rintro rfl
    exact best_nil

def ranked (score : α → β) (candidates : List α) : List α :=
  candidates.insertionSort fun one other => score other ≤ score one

theorem ranked_perm (candidates : List α) : (ranked score candidates).Perm candidates :=
  List.perm_insertionSort _ _

theorem ranked_falling (candidates : List α) :
    (ranked score candidates).Pairwise fun one other => score other ≤ score one := by
  have total : Std.Total fun one other : α => score other ≤ score one :=
    ⟨fun one other => le_total (score other) (score one)⟩
  have trans : IsTrans α fun one other : α => score other ≤ score one :=
    ⟨fun _ _ _ first second => second.trans first⟩
  exact List.pairwise_insertionSort _ candidates

/-- Once some candidates were lost, the best of those found are the best of all if
and only if at least `limit` of those found are as good as each that was lost. -/
theorem best_found_iff {candidates found lost : List α}
    (parts : candidates.Perm (found ++ lost)) :
    Best score limit candidates ((ranked score found).take limit) ↔
      ∀ one ∈ lost, limit ≤ found.countP fun other => score one ≤ score other := by
  have perm : (ranked score found).Perm found := ranked_perm found
  have split : ranked score found =
      (ranked score found).take limit ++ (ranked score found).drop limit :=
    (List.take_append_drop limit _).symm
  have taken : ((ranked score found).take limit).length = min limit found.length := by
    rw [List.length_take, perm.length_eq]
  have whole : candidates.Perm ((ranked score found).take limit ++
      ((ranked score found).drop limit ++ lost)) := by
    rw [← List.append_assoc, ← split]
    exact parts.trans (perm.symm.append_right lost)
  have many : candidates.length = found.length + lost.length := by
    rw [parts.length_eq, List.length_append]
  constructor
  · intro best one member
    obtain ⟨rest, all, under⟩ := best.others
    have same : rest.Perm ((ranked score found).drop limit ++ lost) :=
      (List.perm_append_left_iff _).mp (all.symm.trans whole)
    have behind : one ∈ rest := same.mem_iff.mpr (List.mem_append_right _ member)
    have some' : 0 < lost.length := List.length_pos_of_mem member
    have full : ((ranked score found).take limit).length = limit := by
      have length := best.length
      omega
    calc limit = ((ranked score found).take limit).countP fun other => score one ≤ score other := by
          rw [List.countP_eq_length.mpr fun other chosen =>
            by simpa using under other chosen one behind, full]
      _ ≤ (ranked score found).countP fun other => score one ≤ score other :=
          (List.take_sublist limit _).countP_le
      _ = found.countP fun other => score one ≤ score other := perm.countP_eq _
  · intro enough
    refine ⟨(ranked_falling found).sublist (List.take_sublist limit _), ?_, _, whole, ?_⟩
    · cases lost with
      | nil =>
          rw [taken, many, List.length_nil, Nat.add_zero]
      | cons one rest =>
          have counted := enough one (.head _)
          have fewer : (found.countP fun other => score one ≤ score other) ≤ found.length :=
            List.countP_le_length
          omega
    · intro one chosen other behind
      rcases List.mem_append.mp behind with late | gone
      · have falling := @ranked_falling _ _ _ score found
        rw [split] at falling
        exact (List.pairwise_append.mp falling).2.2 one chosen other late
      · -- One that is worse than the lost one keeps too few in front of it.
        by_contra worse
        rw [not_le] at worse
        have counted := enough other gone
        have none' : ((ranked score found).drop limit).countP
            (fun late => score other ≤ score late) = 0 := by
          rw [List.countP_eq_zero]
          intro late listed
          have falling := @ranked_falling _ _ _ score found
          rw [split] at falling
          have below := (List.pairwise_append.mp falling).2.2 one chosen late listed
          simpa using lt_of_le_of_lt below worse
        have short : ((ranked score found).take limit).countP
            (fun early => score other ≤ score early) <
              ((ranked score found).take limit).length := by
          refine lt_of_le_of_ne List.countP_le_length fun full => ?_
          exact absurd (List.countP_eq_length.mp full one chosen) (by simpa using worse)
        have sum := perm.countP_eq fun early => score other ≤ score early
        rw [split, List.countP_append, none', Nat.add_zero] at sum
        omega

theorem best_ranked (candidates : List α) :
    Best score limit candidates ((ranked score candidates).take limit) :=
  (best_found_iff (by simp : candidates.Perm (candidates ++ []))).mpr
    fun _ member => (nomatch member)

theorem Best.parts [DecidableEq κ] {key : α → κ} {candidates chosen : List α}
    (best : Best score limit candidates chosen) (distinct : (candidates.map key).Nodup) :
    candidates.Perm (chosen ++ candidates.filter fun one => key one ∉ chosen.map key) := by
  obtain ⟨rest, perm, _⟩ := best.others
  have apart : (chosen.map key ++ rest.map key).Nodup := by
    rw [← List.map_append]
    exact (perm.map key).nodup_iff.mp distinct
  have disjoint := (List.nodup_append.mp apart).2.2
  have kept : (candidates.filter fun one => key one ∉ chosen.map key).Perm rest := by
    refine (perm.filter _).trans ?_
    rw [List.filter_append]
    have gone : (chosen.filter fun one => key one ∉ chosen.map key) = [] := by
      rw [List.filter_eq_nil_iff]
      intro one member
      simpa using ⟨one, member, rfl⟩
    have all : (rest.filter fun one => key one ∉ chosen.map key) = rest := by
      rw [List.filter_eq_self]
      intro one member
      simp only [decide_eq_true_eq]
      intro clash
      exact disjoint (key one) clash (key one) (List.mem_map_of_mem member) rfl
    rw [gone, all, List.nil_append]
  exact perm.trans (kept.symm.append_left chosen)

theorem flatMap_parts {whole first second : γ → List α} (groups : List γ)
    (parts : ∀ group ∈ groups, (whole group).Perm (first group ++ second group)) :
    (groups.flatMap whole).Perm (groups.flatMap first ++ groups.flatMap second) := by
  induction groups with
  | nil => exact .refl _
  | cons group rest ih =>
      have one := parts group (.head _)
      have others := ih fun other member => parts other (.tail _ member)
      rw [List.flatMap_cons, List.flatMap_cons, List.flatMap_cons]
      refine (one.append others).trans ?_
      rw [List.append_assoc, List.append_assoc]
      refine List.Perm.append_left _ ?_
      rw [← List.append_assoc, ← List.append_assoc]
      exact List.perm_append_comm.append_right _

theorem find_key_iff [DecidableEq κ] {rows : List α} {key : α → κ}
    (distinct : (rows.map key).Nodup) {row : α} {value : κ} :
    (rows.find? fun other => key other = value) = some row ↔ row ∈ rows ∧ key row = value := by
  constructor
  · intro here
    exact ⟨List.mem_of_find?_eq_some here, by simpa using List.find?_some here⟩
  · rintro ⟨listed, rfl⟩
    cases here : rows.find? fun other => key other = key row with
    | none =>
        have miss := List.find?_eq_none.mp here row listed
        simp at miss
    | some other =>
        have same : key other = key row := by simpa using List.find?_some here
        rw [List.inj_on_of_nodup_map distinct (List.mem_of_find?_eq_some here) listed same]

theorem join_perm [DecidableEq κ] {left : List α} {right : List γ} {key : α → κ} {key' : γ → κ}
    (distinct : (left.map key).Nodup) (distinct' : (right.map key').Nodup) :
    (left.filterMap fun one => (right.find? fun other => key' other = key one).map fun other =>
        (one, other)).Perm
      (right.filterMap fun other => (left.find? fun one => key one = key' other).map fun one =>
        (one, other)) := by
  have pairs {one : α} {other : γ} :
      ((one, other) ∈ left.filterMap fun one =>
          (right.find? fun other => key' other = key one).map fun other => (one, other)) ↔
        (one ∈ left ∧ other ∈ right) ∧ key one = key' other := by
    simp only [List.mem_filterMap, Option.map_eq_some_iff, Prod.mk.injEq]
    constructor
    · rintro ⟨_, listed, _, here, rfl, rfl⟩
      obtain ⟨listed', same⟩ := (find_key_iff distinct').mp here
      exact ⟨⟨listed, listed'⟩, same.symm⟩
    · rintro ⟨⟨listed, listed'⟩, same⟩
      exact ⟨one, listed, other, (find_key_iff distinct').mpr ⟨listed', same.symm⟩, rfl, rfl⟩
  have pairs' {one : α} {other : γ} :
      ((one, other) ∈ right.filterMap fun other =>
          (left.find? fun one => key one = key' other).map fun one => (one, other)) ↔
        (one ∈ left ∧ other ∈ right) ∧ key one = key' other := by
    simp only [List.mem_filterMap, Option.map_eq_some_iff, Prod.mk.injEq]
    constructor
    · rintro ⟨_, listed', _, here, rfl, rfl⟩
      obtain ⟨listed, same⟩ := (find_key_iff distinct).mp here
      exact ⟨⟨listed, listed'⟩, same⟩
    · rintro ⟨⟨listed, listed'⟩, same⟩
      exact ⟨other, listed', one, (find_key_iff distinct).mpr ⟨listed, same⟩, rfl, rfl⟩
  rw [List.perm_ext_iff_of_nodup]
  · rintro ⟨one, other⟩
    rw [pairs, pairs']
  · rw [List.Nodup, List.pairwise_filterMap]
    refine (List.pairwise_map.mp distinct).imp fun apart pair here pair' here' same => ?_
    obtain ⟨_, _, rfl⟩ := Option.map_eq_some_iff.mp here
    obtain ⟨_, _, rfl⟩ := Option.map_eq_some_iff.mp here'
    exact apart (congrArg (fun pair => key pair.1) same)
  · rw [List.Nodup, List.pairwise_filterMap]
    refine (List.pairwise_map.mp distinct').imp fun apart pair here pair' here' same => ?_
    obtain ⟨_, _, rfl⟩ := Option.map_eq_some_iff.mp here
    obtain ⟨_, _, rfl⟩ := Option.map_eq_some_iff.mp here'
    exact apart (congrArg (fun pair => key' pair.2) same)

end AiPlatform.Rankings
