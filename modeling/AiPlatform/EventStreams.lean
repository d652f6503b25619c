import Mathlib.Data.List.Infix

/-!
Event streams (`text/event-stream`): blocks of lines, each ended by a blank line.
A line that starts with a colon is a comment; another sets a field, whose value
loses one space behind the colon. The data of an event are the values of its
`data` lines, with a line feed between them.
-/

namespace AiPlatform.EventStreams

abbrev Line := List Char

abbrev Block := List Line

def valueOf : Line → Line
  | ' ' :: rest => rest
  | value => value

def dataOf : Line → Option Line
  | ['d', 'a', 't', 'a'] => some []
  | 'd' :: 'a' :: 't' :: 'a' :: ':' :: value => some (valueOf value)
  | _ => none

/-- The data of an event; without a `data` line there is none. -/
def eventData (block : Block) : Option Line :=
  match block.filterMap dataOf with
  | [] => none
  | values => some (List.intercalate ['\n'] values)

def linesOf (blocks : List Block) : List Line := blocks.flatMap fun block => block ++ [[]]

/-- What follows `data: ` in a line that starts so. -/
def spacedData : Line → Option Line
  | 'd' :: 'a' :: 't' :: 'a' :: ':' :: ' ' :: rest => some rest
  | _ => none

theorem dataOf_spaced {line value : Line} (spaced : spacedData line = some value) :
    dataOf line = some value := by
  unfold spacedData at spaced
  split at spaced
  · cases spaced
    rfl
  · cases spaced

theorem eventData_one {before after : Block} {line value : Line}
    (others : ∀ other ∈ before ++ after, dataOf other = none) (data : dataOf line = some value) :
    eventData (before ++ line :: after) = some value := by
  have first : before.filterMap dataOf = [] :=
    List.filterMap_eq_nil_iff.mpr fun other member => others other (List.mem_append_left _ member)
  have last : after.filterMap dataOf = [] :=
    List.filterMap_eq_nil_iff.mpr fun other member => others other (List.mem_append_right _ member)
  simp [eventData, List.filterMap_append, first, last, data, List.intercalate]

/-- A block with at most one `data` line. -/
def OneLine (block : Block) : Prop := (block.filterMap dataOf).length ≤ 1

theorem OneLine.cases {block : Block} (one : OneLine block) :
    (∀ line ∈ block, dataOf line = none) ∨
      ∃ before line after value, block = before ++ line :: after ∧ dataOf line = some value ∧
        ∀ other ∈ before ++ after, dataOf other = none := by
  induction block with
  | nil => exact .inl nofun
  | cons line rest ih =>
      cases data : dataOf line with
      | none =>
          have fewer : OneLine rest := by simpa [OneLine, data] using one
          rcases ih fewer with silent | ⟨before, other, after, value, rfl, spoken, others⟩
          · exact .inl (by simpa [data] using silent)
          · exact .inr ⟨line :: before, other, after, value, rfl, spoken, by
              simpa [data] using others⟩
      | some value =>
          have none : rest.filterMap dataOf = [] := by
            simpa [OneLine, data, List.filterMap_cons] using one
          exact .inr ⟨[], line, rest, value, rfl, data, by
            simpa using List.filterMap_eq_nil_iff.mp none⟩

end AiPlatform.EventStreams
