import AiPlatform.Trimming

/-!
The words of a text: its longest runs without a space. Trimming and splitting at
spaces leave the words as they are; a cut in the middle of one makes two of it.
`Intact` says of a list of words that it is another one in which only words
beyond a length were cut.
-/

namespace AiPlatform.Trimming

variable {α : Type} {space : α → Bool} {text left right : List α}

def words (space : α → Bool) (text : List α) : List (List α) :=
  (text.splitOnP space).filter fun word => !word.isEmpty

def asWord (run : List α) : List (List α) := if run.isEmpty then [] else [run]

@[simp] theorem words_nil : words space [] = [] := rfl

theorem words_append_cons {a : α} (blank : space a = true) :
    words space (left ++ a :: right) = words space left ++ words space right := by
  rw [words, List.splitOnP_append_cons left right blank, List.filter_append]
  rfl

theorem words_cons {a : α} (blank : space a = true) : words space (a :: text) = words space text :=
  @words_append_cons _ _ [] _ _ blank

theorem words_blank_append (blank : ink space left = []) :
    words space (left ++ right) = words space right := by
  induction left with
  | nil => rfl
  | cons a rest ih =>
      have each := ink_eq_nil.mp blank
      rw [List.cons_append, words_cons (each a List.mem_cons_self)]
      exact ih (ink_eq_nil.mpr fun b member => each b (List.mem_cons_of_mem _ member))

def Stops (space : α → Bool) (text : List α) : Prop := ∀ a ∈ text.head?, space a = true

theorem words_append_stops (stops : Stops space right) :
    words space (left ++ right) = words space left ++ words space right := by
  cases right with
  | nil => simp
  | cons a rest =>
      have blank := stops a rfl
      rw [words_append_cons blank, words_cons blank]

theorem words_append_blank (blank : ink space right = []) :
    words space (left ++ right) = words space left := by
  have none : words space right = [] := by simpa using @words_blank_append _ _ _ [] blank
  have stops : Stops space right := by
    intro a member
    exact ink_eq_nil.mp blank a (List.mem_of_mem_head? member)
  rw [words_append_stops stops, none, List.append_nil]

@[simp] theorem words_dropWhile : words space (text.dropWhile space) = words space text := by
  conv => rhs; rw [← List.takeWhile_append_dropWhile (p := space) (l := text)]
  exact (words_blank_append (ink_eq_nil.mpr fun a member => List.mem_takeWhile_imp member)).symm

@[simp] theorem words_rdropWhile : words space (text.rdropWhile space) = words space text := by
  conv => rhs; rw [← List.rdropWhile_append_rtakeWhile (p := space) (l := text)]
  refine (words_append_blank (ink_eq_nil.mpr fun a member => ?_)).symm
  rw [List.rtakeWhile, List.mem_reverse] at member
  exact List.mem_takeWhile_imp member

@[simp] theorem words_trim : words space (trim space text) = words space text := by
  rw [trim, words_rdropWhile, words_dropWhile]

theorem words_run {run : List α} (ink : ∀ a ∈ run, space a = false) :
    words space run = asWord run := by
  rw [words, List.splitOnP_eq_singleton ink, asWord]
  cases run <;> rfl

theorem words_around {run : List α} (ends : ∀ a ∈ left.getLast?, space a = true)
    (ink : ∀ a ∈ run, space a = false) (stops : Stops space right) :
    words space (left ++ (run ++ right)) = words space left ++ (asWord run ++ words space right) := by
  have behind : words space (run ++ right) = asWord run ++ words space right := by
    rw [words_append_stops stops, words_run ink]
  rcases List.eq_nil_or_concat left with rfl | ⟨front, last, rfl⟩
  · exact behind
  · have blank : space last = true := ends last (by simp)
    have same : front.concat last ++ (run ++ right) = front ++ last :: (run ++ right) := by simp
    have front' : words space (front.concat last) = words space front := by
      rw [List.concat_eq_append]
      exact words_append_blank (ink_eq_nil.mpr (by simpa using blank))
    rw [same, words_append_cons blank, behind, front']

theorem splitOnP_runs (space : α → Bool) (text : List α) :
    ∃ head rest, text.splitOnP space = head :: rest ∧ head <+: text ∧
      (∀ a ∈ head, space a = false) ∧
      ∀ word ∈ rest, (∀ a ∈ word, space a = false) ∧ word <:+: text := by
  induction text with
  | nil => exact ⟨[], [], rfl, List.prefix_refl _, by simp, by simp⟩
  | cons a text ih =>
      obtain ⟨head, rest, same, starts, ink, others⟩ := ih
      rw [List.splitOnP_cons_eq_if_modifyHead, same]
      have further : ∀ word ∈ rest, (∀ a ∈ word, space a = false) ∧ word <:+: a :: text :=
        fun word member => ⟨(others word member).1, List.infix_cons (others word member).2⟩
      by_cases blank : space a = true
      · rw [if_pos blank]
        refine ⟨[], head :: rest, rfl, List.nil_prefix, by simp, ?_⟩
        exact List.forall_mem_cons.mpr ⟨⟨ink, List.infix_cons starts.isInfix⟩, further⟩
      · rw [if_neg blank]
        refine ⟨a :: head, rest, rfl, List.cons_prefix_cons.mpr ⟨rfl, starts⟩, ?_, further⟩
        exact List.forall_mem_cons.mpr ⟨by simpa using blank, ink⟩

theorem mem_words {word : List α} (member : word ∈ words space text) :
    word ≠ [] ∧ (∀ a ∈ word, space a = false) ∧ word <:+: text := by
  obtain ⟨listed, some⟩ := List.mem_filter.mp member
  refine ⟨by simpa using some, ?_⟩
  obtain ⟨head, rest, same, starts, ink, others⟩ := splitOnP_runs space text
  rw [same] at listed
  rcases List.mem_cons.mp listed with rfl | later
  · exact ⟨ink, starts.isInfix⟩
  · exact others word later

theorem flatten_words : (words space text).flatten = ink space text := by
  rw [words, List.flatten_filter_not_isEmpty]
  induction text with
  | nil => rfl
  | cons a rest ih =>
      rw [List.splitOnP_cons_eq_if_modifyHead]
      by_cases blank : space a = true
      · rw [if_pos blank, List.flatten_cons, ih, List.nil_append, ink_cons_space blank]
      · obtain ⟨head, later, same, _⟩ := splitOnP_runs space rest
        rw [same] at ih ⊢
        rw [if_neg blank, List.modifyHead_cons, List.flatten_cons, List.cons_append,
          ← List.flatten_cons, ih]
        exact (List.filter_cons_of_pos (by simpa using blank)).symm

theorem splitAt_words {separator : Option α → List α → Nat}
    (blank : ∀ before (text : List α), ink space (text.take (separator before text)) = [])
    (before : Option α) (skip : Nat) :
    ∃ piece pieces tail, splitAt separator before skip text = piece :: pieces ∧
      text.drop skip = piece ++ tail ∧ Stops space tail ∧
      pieces.flatMap (words space) = words space tail := by
  induction text generalizing before skip with
  | nil => exact ⟨[], [], [], by simp [splitAt], by simp, by simp [Stops], rfl⟩
  | cons a rest ih =>
      cases skip with
      | succ skip => exact ih (some a) skip
      | zero =>
          cases found : separator before (a :: rest) with
          | zero =>
              obtain ⟨piece, pieces, tail, same, text, stops, kept⟩ := ih (some a) 0
              refine ⟨a :: piece, pieces, tail, by simp [splitAt, found, same], ?_, stops, kept⟩
              simpa using text
          | succ width =>
              obtain ⟨piece, pieces, tail, same, text, stops, kept⟩ := ih (some a) width
              have own := blank before (a :: rest)
              rw [found, List.take_succ_cons, ink_eq_nil] at own
              have first := own a List.mem_cons_self
              have others : ink space (rest.take width) = [] :=
                ink_eq_nil.mpr fun b member => own b (List.mem_cons_of_mem _ member)
              refine ⟨[], piece :: pieces, a :: rest, by simp [splitAt, found, same], rfl, ?_, ?_⟩
              · rintro b ⟨⟩
                exact first
              · calc (piece :: pieces).flatMap (words space)
                    = words space (piece ++ tail) := by
                      rw [List.flatMap_cons, kept, words_append_stops stops]
                  _ = words space (rest.take width ++ rest.drop width) := by
                      rw [← text, words_blank_append others]
                  _ = words space (a :: rest) := by rw [List.take_append_drop, words_cons first]

theorem words_splitAt {separator : Option α → List α → Nat}
    (blank : ∀ before (text : List α), ink space (text.take (separator before text)) = [])
    (before : Option α) :
    (splitAt separator before 0 text).flatMap (words space) = words space text := by
  obtain ⟨piece, pieces, tail, same, whole, stops, kept⟩ :=
    @splitAt_words _ _ text _ blank before 0
  rw [List.drop_zero] at whole
  rw [same, List.flatMap_cons, kept, whole, words_append_stops stops]

inductive Intact (limit : Nat) : List (List α) → List (List α) → Prop
  | nil : Intact limit [] []
  | whole {word : List α} {old new : List (List α)} : Intact limit old new →
      Intact limit (word :: old) (word :: new)
  | cut {word : List α} {group old new : List (List α)} : limit < word.length →
      group.flatten = word → Intact limit old new → Intact limit (word :: old) (group ++ new)

variable {limit : Nat} {old new first second : List (List α)}

theorem Intact.refl (limit : Nat) (words : List (List α)) : Intact limit words words := by
  induction words with
  | nil => exact .nil
  | cons word rest ih => exact .whole ih

theorem Intact.append (front : Intact limit old new) (back : Intact limit first second) :
    Intact limit (old ++ first) (new ++ second) := by
  induction front with
  | nil => exact back
  | whole _ ih => exact .whole ih
  | cut long same _ ih =>
      rw [List.append_assoc]
      exact .cut long same ih

theorem Intact.mem (intact : Intact limit old new) {word : List α} (member : word ∈ old)
    (short : word.length ≤ limit) : word ∈ new := by
  induction intact with
  | nil => cases member
  | whole _ ih =>
      rcases List.mem_cons.mp member with rfl | later
      · exact List.mem_cons_self
      · exact List.mem_cons_of_mem _ (ih later)
  | cut long _ _ ih =>
      rcases List.mem_cons.mp member with rfl | later
      · omega
      · exact List.mem_append_right _ (ih later)

theorem prefix_flatten (starts : first <+: second) (some : ∀ word ∈ second, word ≠ [])
    (same : second.flatten.length ≤ first.flatten.length) : first = second := by
  obtain ⟨rest, rfl⟩ := starts
  cases rest with
  | nil => rw [List.append_nil]
  | cons word rest =>
      have filled : 0 < word.length :=
        List.length_pos_iff.mpr (some word (List.mem_append_right _ List.mem_cons_self))
      rw [List.flatten_append, List.flatten_cons, List.length_append, List.length_append] at same
      omega

theorem Intact.split (intact : Intact limit (old ++ first) (new ++ second))
    (same : new.flatten = old.flatten) (olds : ∀ word ∈ old, word ≠ [])
    (news : ∀ word ∈ new ++ second, word ≠ []) :
    Intact limit old new ∧ Intact limit first second := by
  induction old generalizing new with
  | nil =>
      have none : new = [] := by
        cases new with
        | nil => rfl
        | cons word rest =>
            rw [List.flatten_nil, List.flatten_cons] at same
            exact absurd (List.append_eq_nil_iff.mp same).1
              (news word (List.mem_append_left _ List.mem_cons_self))
      subst none
      exact ⟨.nil, intact⟩
  | cons word old ih =>
      have olds' := fun other member => olds other (List.mem_cons_of_mem word member)
      rw [List.cons_append] at intact
      rw [List.flatten_cons] at same
      generalize whole : new ++ second = all at intact
      cases intact with
      | whole rest =>
          cases new with
          | nil =>
              rw [List.flatten_nil] at same
              exact absurd (List.append_eq_nil_iff.mp same.symm).1 (olds word List.mem_cons_self)
          | cons other new =>
              cases whole
              rw [List.flatten_cons] at same
              obtain ⟨front, back⟩ := ih rest (List.append_cancel_left same) olds'
                fun other member => news other (List.mem_cons_of_mem _ member)
              exact ⟨.whole front, back⟩
      | @cut _ group _ later long grouped rest =>
          obtain ⟨tail, rfl⟩ : ∃ tail, new = group ++ tail := by
            have either := List.prefix_or_prefix_of_prefix (List.prefix_append new second)
              (whole ▸ List.prefix_append group later)
            rcases either with shorter | longer
            · have every : ∀ word ∈ group, word ≠ [] :=
                fun word member => news word (whole ▸ List.mem_append_left later member)
              have equal := prefix_flatten shorter every (by
                rw [grouped, same, List.length_append]
                omega)
              exact ⟨[], by rw [equal, List.append_nil]⟩
            · obtain ⟨tail, rfl⟩ := longer
              exact ⟨tail, rfl⟩
          rw [List.append_assoc] at whole news
          rw [List.flatten_append, grouped] at same
          obtain ⟨front, back⟩ := ih (List.append_cancel_left whole ▸ rest)
            (List.append_cancel_left same) olds'
            fun other member => news other (List.mem_append_right _ member)
          exact ⟨.cut long grouped front, back⟩

theorem Intact.of_front {front : List (List α)} (olds : ∀ word ∈ front, word ≠ [])
    (news : ∀ word ∈ second, word ≠ []) :
    Intact limit (front ++ first) (front ++ second) ↔ Intact limit first second := by
  refine ⟨fun intact => (intact.split rfl olds ?_).2, (Intact.refl limit front).append⟩
  intro word member
  rcases List.mem_append.mp member with early | late
  · exact olds word early
  · exact news word late

theorem intact_flatMap {ι : Type} {items : List ι} {before after : ι → List (List α)}
    (same : ∀ item ∈ items, (after item).flatten = (before item).flatten)
    (olds : ∀ item ∈ items, ∀ word ∈ before item, word ≠ [])
    (news : ∀ item ∈ items, ∀ word ∈ after item, word ≠ []) :
    Intact limit (items.flatMap before) (items.flatMap after) ↔
      ∀ item ∈ items, Intact limit (before item) (after item) := by
  induction items with
  | nil => exact ⟨fun _ => List.forall_mem_nil _, fun _ => .nil⟩
  | cons item rest ih =>
      obtain ⟨same, sames⟩ := List.forall_mem_cons.mp same
      obtain ⟨old, olds⟩ := List.forall_mem_cons.mp olds
      obtain ⟨new, news⟩ := List.forall_mem_cons.mp news
      rw [List.flatMap_cons, List.flatMap_cons, List.forall_mem_cons, ← ih sames olds news]
      constructor
      · intro intact
        refine intact.split same old fun word member => ?_
        rcases List.mem_append.mp member with early | late
        · exact new word early
        · obtain ⟨other, listed, late⟩ := List.mem_flatMap.mp late
          exact news other listed word late
      · rintro ⟨front, back⟩
        exact front.append back

def lastRun (space : α → Bool) (text : List α) : List α := text.rtakeWhile fun a => !space a

def firstRun (space : α → Bool) (text : List α) : List α := text.takeWhile fun a => !space a

theorem firstRun_ink : ∀ a ∈ firstRun space text, space a = false :=
  fun a member => by simpa using List.mem_takeWhile_imp member

theorem lastRun_ink : ∀ a ∈ lastRun space text, space a = false := by
  intro a member
  rw [lastRun, List.rtakeWhile, List.mem_reverse] at member
  simpa using List.mem_takeWhile_imp member

def behindRun (space : α → Bool) (text : List α) : List α := text.dropWhile fun a => !space a

def beforeRun (space : α → Bool) (text : List α) : List α := text.rdropWhile fun a => !space a

theorem firstRun_append : firstRun space text ++ behindRun space text = text :=
  List.takeWhile_append_dropWhile

theorem beforeRun_append : beforeRun space text ++ lastRun space text = text :=
  List.rdropWhile_append_rtakeWhile

theorem behindRun_stops : Stops space (behindRun space text) := by
  intro a member
  have stop := List.head?_dropWhile_not (fun a => !space a) text
  rw [behindRun] at member
  rw [Option.mem_def.mp member] at stop
  simpa using stop

theorem beforeRun_ends : ∀ a ∈ (beforeRun space text).getLast?, space a = true := by
  intro a member
  obtain ⟨some, rfl⟩ := List.mem_getLast?_eq_getLast member
  have stop := List.rdropWhile_last_not (fun a => !space a) text some
  rw [Bool.not_eq_true, Bool.not_eq_false'] at stop
  exact stop

theorem words_append : words space (left ++ right) =
    words space (beforeRun space left) ++
      (asWord (lastRun space left ++ firstRun space right) ++
        words space (behindRun space right)) := by
  have ink : ∀ a ∈ lastRun space left ++ firstRun space right, space a = false := by
    intro a member
    rcases List.mem_append.mp member with last | first
    · exact lastRun_ink a last
    · exact firstRun_ink a first
  rw [← words_around beforeRun_ends ink behindRun_stops]
  have before : beforeRun space left ++ lastRun space left = left := beforeRun_append
  have behind : firstRun space right ++ behindRun space right = right := firstRun_append
  conv => lhs; rw [← before, ← behind]
  simp only [List.append_assoc]

theorem words_front : words space left =
    words space (beforeRun space left) ++ asWord (lastRun space left) := by
  have whole := @words_append _ space left []
  simpa [firstRun, behindRun] using whole

theorem words_behind : words space right =
    asWord (firstRun space right) ++ words space (behindRun space right) := by
  have whole := @words_append _ space [] right
  simpa [lastRun, beforeRun] using whole

theorem intact_halves {ending beginning : List α} (some : ending ≠ []) (some' : beginning ≠ [])
    (news : ∀ word ∈ second, word ≠ [])
    (kept : beginning.length ≤ limit → ∃ later, second = beginning :: later) :
    Intact limit ((ending ++ beginning) :: first) (ending :: second) ↔
      limit < ending.length + beginning.length ∧ Intact limit (beginning :: first) second := by
  constructor
  · intro intact
    generalize whole : ending :: second = all at intact
    generalize joined : ending ++ beginning = word at intact
    cases intact with
    | whole rest =>
        cases whole
        exact absurd (List.append_right_eq_self.mp joined) some'
    | @cut _ group _ later long grouped rest =>
        rw [← joined] at long grouped
        rw [List.length_append] at long
        refine ⟨long, ?_⟩
        cases group with
        | nil => exact absurd (List.append_eq_nil_iff.mp grouped.symm).1 some
        | cons head group =>
            obtain ⟨rfl, rfl⟩ := List.cons.inj whole
            have tail : group.flatten = beginning := List.append_cancel_left grouped
            by_cases short : beginning.length ≤ limit
            · -- What follows begins with the second half, so the group has nothing else.
              obtain ⟨after, same⟩ := kept short
              cases group with
              | nil => exact absurd tail.symm some'
              | cons first' group =>
                  obtain ⟨rfl, rfl⟩ := List.cons.inj same
                  have none : group.flatten = [] := List.append_right_eq_self.mp tail
                  cases group with
                  | nil => exact .whole rest
                  | cons other group =>
                      exact absurd (List.append_eq_nil_iff.mp none).1 (news other (by simp))
            · exact .cut (by omega) tail rest
  · rintro ⟨long, intact⟩
    rw [← List.length_append] at long
    generalize whole : beginning :: first = old at intact
    cases intact with
    | nil => cases whole
    | whole rest =>
        obtain ⟨rfl, rfl⟩ := List.cons.inj whole
        exact @Intact.cut _ limit _ [ending, beginning] _ _ long (by simp) rest
    | @cut _ group _ _ _ grouped rest =>
        obtain ⟨rfl, rfl⟩ := List.cons.inj whole
        exact @Intact.cut _ limit _ (ending :: group) _ _ long (by simp [grouped]) rest

theorem intact_cut {ending beginning : List α} (news : ∀ word ∈ second, word ≠ [])
    (kept : beginning ≠ [] → beginning.length ≤ limit → ∃ later, second = beginning :: later) :
    Intact limit (asWord (ending ++ beginning) ++ first) (asWord ending ++ second) ↔
      ¬ (ending ≠ [] ∧ beginning ≠ [] ∧ ending.length + beginning.length ≤ limit) ∧
        Intact limit (asWord beginning ++ first) second := by
  by_cases none : ending = []
  · simp [none, asWord]
  · have one : asWord ending = [ending] := by simp [asWord, none]
    by_cases none' : beginning = []
    · have front := @Intact.of_front _ limit first second [ending] (by simpa using none) news
      rw [none', List.append_nil, one]
      simpa [asWord] using front
    · have two : asWord beginning = [beginning] := by simp [asWord, none']
      have both : asWord (ending ++ beginning) = [ending ++ beginning] := by simp [asWord, none]
      rw [one, two, both, List.singleton_append, List.singleton_append, List.singleton_append,
        intact_halves none none' news (kept none')]
      simp [none, none']

end AiPlatform.Trimming
