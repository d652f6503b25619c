import AiPlatform.AirGapGate

/-!
When the air-gap gate is exact. It reads lines and the rules are about requirements
and instructions, so it may not see what breaks a rule or report what breaks none.
It is exact on files where something that breaks a rule shows, or where neither
happens, or where both do.
-/

namespace AiPlatform.AirGap

open Agents (isSpace)

variable {unicode : Char → Bool} {lockfile dockerfile : Text}

theorem screening_iff {Place : Type} (shows broken : Place → Prop) :
    ((∀ place, ¬ shows place) ↔ ∀ place, ¬ broken place) ↔
      (∃ place, shows place ∧ broken place) ∨
        ((∃ place, broken place ∧ ¬ shows place) ↔ ∃ place, shows place ∧ ¬ broken place) := by
  constructor
  · intro exact'
    by_cases both : ∃ place, shows place ∧ broken place
    · exact .inl both
    · refine .inr ⟨?_, ?_⟩
      · rintro ⟨place, bad, _⟩
        by_contra none
        have hidden : ∀ place, ¬ shows place := fun place shown =>
          none ⟨place, shown, fun bad => both ⟨place, shown, bad⟩⟩
        exact exact'.mp hidden place bad
      · rintro ⟨place, shown, _⟩
        by_contra none
        have fine : ∀ place, ¬ broken place := fun place bad =>
          none ⟨place, bad, fun shown => both ⟨place, shown, bad⟩⟩
        exact exact'.mpr fine place shown
  · rintro (⟨place, shown, bad⟩ | balance)
    · exact iff_of_false (fun none => none place shown) fun none => none place bad
    · constructor
      · intro none place bad
        obtain ⟨other, shown, _⟩ := balance.mp ⟨place, bad, none place⟩
        exact none other shown
      · intro none place shown
        obtain ⟨other, bad, _⟩ := balance.mpr ⟨place, shown, none place⟩
        exact none other bad

/-- Where a rule can be broken: the lockfile as a whole, and a requirement, a `FROM` or a
`RUN` by the number of its first line. -/
inductive Place
  | lockfile
  | requirement (number : Nat)
  | base (number : Nat)
  | command (number : Nat)

def Shows (unicode : Char → Bool) (lockfile dockerfile : Text) : Place → Prop
  | .lockfile => ¬ hashMark <:+: lockfile
  | .requirement number =>
      ∃ line, (line, number) ∈ (splitlines lockfile).zipIdx ∧ (otherOperator line).isSome
  | .base number =>
      ∃ found ∈ fromMatches 0 0 none (linesOf dockerfile),
        found.keyword = number ∧ tagged found.image
  | .command number =>
      ∃ line, (line, number) ∈ (linesOf dockerfile).zipIdx ∧ (runInstalls unicode line).isSome

def Breaks (unicode : Char → Bool) (lockfile dockerfile : Text) : Place → Prop
  | .lockfile => ¬ hashMark <:+: lockfile ∧
      ∃ entry ∈ requirements lockfile, ¬ hashMark <:+: entry.text
  | .requirement number => ∃ entry ∈ requirements lockfile, entry.number = number ∧ ¬ entry.locked
  | .base number => ∃ entry ∈ loose [] (instructions dockerfile), entry.number = number
  | .command number => ∃ entry ∈ instructions dockerfile, entry.number = number ∧
      entry.installs unicode

theorem locked_report_iff (path : String) :
    checkRequirementsLocked path lockfile = [] ↔
      hashMark <:+: lockfile ∧
        ∀ number, ¬ ∃ line, (line, number) ∈ (splitlines lockfile).zipIdx ∧
          (otherOperator line).isSome := by
  rw [checkRequirementsLocked, List.append_eq_nil_iff, List.filterMap_eq_nil_iff]
  constructor
  · rintro ⟨hashed, silent⟩
    constructor
    · by_contra bare
      rw [if_neg bare] at hashed
      cases hashed
    · rintro number ⟨line, member, shown⟩
      have quiet := silent (line, number) member
      rw [Option.map_eq_none_iff] at quiet
      rw [quiet] at shown
      cases shown
  · rintro ⟨hashed, silent⟩
    refine ⟨if_pos hashed, ?_⟩
    rintro ⟨line, number⟩ member
    rw [Option.map_eq_none_iff, ← Option.not_isSome_iff_eq_none]
    exact fun shown => silent number ⟨line, member, shown⟩

theorem digests_report_iff (path : String) :
    checkDockerfileDigests path dockerfile = [] ↔
      ∀ number, ¬ ∃ found ∈ fromMatches 0 0 none (linesOf dockerfile),
        found.keyword = number ∧ tagged found.image := by
  rw [checkDockerfileDigests, List.filterMap_eq_nil_iff]
  constructor
  · rintro silent number ⟨found, member, _, shown⟩
    have quiet := silent found member
    rw [if_pos shown] at quiet
    cases quiet
  · intro silent found member
    exact if_neg fun shown => silent found.keyword ⟨found, member, rfl, shown⟩

theorem blank_installs {line : Text} (blank : line.all isSpace = true) :
    runInstalls unicode line = none := by
  have empty : line.dropWhile isSpace = [] := by
    rw [List.dropWhile_eq_nil_iff]
    exact List.all_eq_true.mp blank
  rw [runInstalls, empty]

/-- The pattern for `RUN` matches somewhere if and only if it does on a line. -/
theorem runMatches_iff (lines : List Text) (start number : Nat) :
    runMatches unicode start number lines = [] ↔
      ∀ line ∈ lines, ¬ (runInstalls unicode line).isSome := by
  induction lines generalizing start number with
  | nil => simp [runMatches]
  | cons line rest ih =>
      rw [runMatches, List.forall_mem_cons]
      by_cases blank : line.all isSpace = true
      · rw [if_pos blank, ih, blank_installs blank]
        simp
      · rw [if_neg blank]
        cases found : runInstalls unicode line with
        | some manager => simp
        | none => simp [ih]

theorem commands_report_iff (path : String) :
    checkDockerfileNoOsPackages unicode path dockerfile = [] ↔
      ∀ number, ¬ ∃ line, (line, number) ∈ (linesOf dockerfile).zipIdx ∧
        (runInstalls unicode line).isSome := by
  rw [checkDockerfileNoOsPackages, List.map_eq_nil_iff, runMatches_iff]
  constructor
  · rintro silent number ⟨line, member, shown⟩
    exact silent line (List.fst_mem_of_mem_zipIdx member) shown
  · intro silent line member shown
    obtain ⟨number, here, same⟩ := List.getElem_of_mem member
    refine silent number ⟨line, ?_, shown⟩
    rw [List.mem_zipIdx_iff_getElem?]
    simp [← same, here]

theorem report_iff : report unicode lockfile dockerfile = [] ↔
    ∀ place, ¬ Shows unicode lockfile dockerfile place := by
  rw [report, List.append_eq_nil_iff, List.append_eq_nil_iff, locked_report_iff,
    digests_report_iff, commands_report_iff]
  constructor
  · rintro ⟨⟨⟨hashed, pins⟩, bases⟩, commands⟩ place
    cases place with
    | lockfile => exact fun bare => bare hashed
    | requirement number => exact pins number
    | base number => exact bases number
    | command number => exact commands number
  · intro silent
    exact ⟨⟨⟨not_not.mp (silent .lockfile), fun number => silent (.requirement number)⟩,
      fun number => silent (.base number)⟩, fun number => silent (.command number)⟩

theorem compliant_iff : Compliant unicode lockfile dockerfile ↔
    ∀ place, ¬ Breaks unicode lockfile dockerfile place := by
  constructor
  · rintro ⟨locked, pinned, bare⟩ place broken
    cases place with
    | lockfile =>
        obtain ⟨_, entry, member, unhashed⟩ := broken
        have fine := locked entry member
        simp only [Entry.locked, Bool.and_eq_true, decide_eq_true_eq] at fine
        exact unhashed fine.2
    | requirement number =>
        obtain ⟨entry, member, _, unlocked⟩ := broken
        exact unlocked (locked entry member)
    | base number =>
        obtain ⟨entry, member, _⟩ := broken
        rw [pinned] at member
        cases member
    | command number =>
        obtain ⟨entry, member, _, installs⟩ := broken
        exact bare entry member installs
  · intro fine
    refine ⟨fun entry member => ?_, ?_, fun entry member installs => ?_⟩
    · by_contra unlocked
      exact fine (.requirement entry.number) ⟨entry, member, rfl, unlocked⟩
    · apply List.eq_nil_iff_forall_not_mem.mpr
      intro entry member
      exact fine (.base entry.number) ⟨entry, member, rfl⟩
    · exact fine (.command entry.number) ⟨entry, member, rfl, installs⟩

def looseLockfile : Text := "alembic==1.19.0 --hash=sha256:6487\nanyio\n".toList

def looseDockerfile : Text := "FROM python\nRUN echo ok \\\n && apt-get install -y curl\n".toList

def flaggedDockerfile : Text :=
  "FROM --platform=linux/amd64 python@sha256:".toList ++ List.replicate 64 'a'

end AiPlatform.AirGap
