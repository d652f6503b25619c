import AiPlatform.Globs
import AiPlatform.MemoryService

/-!
Session keys. A key is the tenant, the individual, the agent and the key within
the session, joined with colons, and a scope is cleared by a glob pattern that
begins with the same text, as it stands. Texts that have colons, the words that
stand for nobody and for any agent, and characters that mean something in a
pattern make one key of several.
-/

namespace AiPlatform

section Joined

variable {α : Type} {sep : α}

theorem splitOn_inj [DecidableEq α] {left right : List α} : left.splitOn sep = right.splitOn sep ↔ left = right := by
  constructor
  · intro same
    have joined : [sep].intercalate (left.splitOn sep) = left := List.intercalate_splitOn sep
    rw [← joined, same, List.intercalate_splitOn]
  · rintro rfl
    rfl

theorem intercalate_append {first more : List (List α)} (some : first ≠ []) (others : more ≠ []) :
    [sep].intercalate (first ++ more) = [sep].intercalate first ++ sep :: [sep].intercalate more := by
  induction first with
  | nil => exact absurd rfl some
  | cons text rest ih =>
      cases rest with
      | nil => simp [List.intercalate_cons_of_ne_nil others]
      | cons next rest =>
          have later : next :: rest ≠ [] := List.cons_ne_nil next rest
          rw [List.cons_append, List.intercalate_cons_of_ne_nil (by simp), ih later,
            List.intercalate_cons_of_ne_nil later]
          simp only [List.append_assoc, List.cons_append]

theorem separated_prefix_iff [DecidableEq α] {text whole : List α} :
    text ++ [sep] <+: whole ↔
      ∃ more ≠ [], whole.splitOn sep = text.splitOn sep ++ more := by
  constructor
  · rintro ⟨rest, rfl⟩
    refine ⟨rest.splitOn sep, List.splitOn_ne_nil sep rest, ?_⟩
    rw [List.append_assoc]
    exact List.splitOn_append_cons_self text rest
  · rintro ⟨more, some, parts⟩
    refine ⟨[sep].intercalate more, ?_⟩
    have joined : [sep].intercalate (whole.splitOn sep) = whole := List.intercalate_splitOn sep
    rw [← joined, parts,
      intercalate_append (List.splitOn_ne_nil sep text) some, List.intercalate_splitOn]
    simp

end Joined

namespace Memory

open Agents (Json truthy)
open Globs (Documented documented specials documented_documented)

namespace MemoryScope

def individual (scope : MemoryScope) : Option Uuid × Option String :=
  (scope.userId, scope.endUser.filter truthy)

def Same (scope other : MemoryScope) : Prop :=
  scope.tenantId = other.tenantId ∧ scope.individual = other.individual ∧
    scope.agentId = other.agentId

instance (scope other : MemoryScope) : Decidable (scope.Same other) :=
  inferInstanceAs (Decidable (_ ∧ _ ∧ _))

def who (scope : MemoryScope) : String :=
  (scope.endUser.filter truthy).getD ((scope.userId.map Uuid.str).getD "anon")

def agent (scope : MemoryScope) : String := (scope.agentId.map Uuid.str).getD "any"

def parts (scope : MemoryScope) : List (List Char) :=
  scope.tenantId.toList.splitOn ':' ++ scope.who.toList.splitOn ':' ++
    scope.agent.toList.splitOn ':'

def keyParts (scope : MemoryScope) (key : String) : List (List Char) :=
  scope.parts ++ key.toList.splitOn ':'

theorem who_eq (scope : MemoryScope) :
    scope.who = match scope.endUser with
      | some name => if truthy name then name else match scope.userId with
        | some id => id.str
        | none => "anon"
      | none => match scope.userId with
        | some id => id.str
        | none => "anon" := by
  unfold who
  cases scope.endUser with
  | none => cases scope.userId <;> rfl
  | some name =>
      rw [Option.filter_some]
      by_cases given : truthy name = true
      · simp only [if_pos given, Option.getD_some]
      · simp only [if_neg given, Option.getD_none]
        cases scope.userId <;> rfl

theorem agent_eq (scope : MemoryScope) :
    scope.agent = match scope.agentId with
      | some id => id.str
      | none => "any" := by
  unfold agent
  cases scope.agentId <;> rfl

theorem sessionPrefix_eq (scope : MemoryScope) :
    scope.sessionPrefix = s!"memory:session:{scope.tenantId}:{scope.who}:{scope.agent}:" := by
  rw [who_eq, agent_eq]
  rfl

def stem : String := "memory:session:"

def text (scope : MemoryScope) : List Char :=
  scope.tenantId.toList ++ ':' :: (scope.who.toList ++ ':' :: scope.agent.toList)

theorem splitOn_text (scope : MemoryScope) : scope.text.splitOn ':' = scope.parts := by
  rw [text, List.splitOn_append_cons_self, List.splitOn_append_cons_self, parts, List.append_assoc]

theorem sessionPrefix_toList (scope : MemoryScope) :
    scope.sessionPrefix.toList = stem.toList ++ (scope.text ++ [':']) := by
  have joined : scope.sessionPrefix =
      stem ++ scope.tenantId ++ ":" ++ scope.who ++ ":" ++ scope.agent ++ ":" :=
    scope.sessionPrefix_eq
  rw [joined, text]
  simp only [String.toList_append, List.append_assoc, List.cons_append]
  rfl

theorem sessionKey_toList (scope : MemoryScope) (key : String) :
    (scope.sessionKey key).toList = stem.toList ++ (scope.text ++ ':' :: key.toList) := by
  rw [sessionKey, String.toList_append, sessionPrefix_toList, List.append_assoc, List.append_assoc]
  rfl

theorem splitOn_joined (scope : MemoryScope) (key : String) :
    (scope.text ++ ':' :: key.toList).splitOn ':' = scope.keyParts key := by
  rw [List.splitOn_append_cons_self, splitOn_text, keyParts]

theorem sessionKey_eq_iff {scope other : MemoryScope} {key otherKey : String} :
    scope.sessionKey key = other.sessionKey otherKey ↔
      scope.keyParts key = other.keyParts otherKey := by
  rw [← String.toList_inj, sessionKey_toList, sessionKey_toList, List.append_cancel_left_eq,
    ← @splitOn_inj Char ':' _, splitOn_joined, splitOn_joined]

theorem sessionPrefix_iff {scope other : MemoryScope} {key : String} :
    scope.sessionPrefix.toList <+: (other.sessionKey key).toList ↔
      ∃ more ≠ [], other.keyParts key = scope.parts ++ more := by
  rw [sessionPrefix_toList, sessionKey_toList, List.prefix_append_right_inj,
    separated_prefix_iff, splitOn_joined, splitOn_text]

theorem Same.parts {scope other : MemoryScope} (same : scope.Same other) :
    scope.parts = other.parts := by
  obtain ⟨tenant, individual, agentId⟩ := same
  have who : scope.who = other.who := by
    obtain ⟨user, name⟩ := Prod.mk.inj individual
    rw [who, who, user, name]
  rw [MemoryScope.parts, MemoryScope.parts, tenant, who, agent, agent, agentId]

def Begins (scope other : MemoryScope) (key : String) : Prop :=
  ∃ more ≠ [], other.keyParts key = scope.parts ++ more

theorem Same.begins {scope other : MemoryScope} (same : scope.Same other) (key : String) :
    scope.Begins other key :=
  ⟨_, List.splitOn_ne_nil ':' key.toList, by rw [keyParts, same.parts]⟩

def Plain (scope : MemoryScope) : Prop := ∀ char ∈ scope.text, char ∉ specials

instance (scope : MemoryScope) : Decidable scope.Plain :=
  List.decidableBAll (fun char => char ∉ specials) scope.text

theorem Plain.covers {scope other : MemoryScope} {key : String} {glob : String → String → Bool}
    (plain : scope.Plain) (documents : Documented glob) :
    glob (scope.sessionPrefix ++ "*") (other.sessionKey key) = true ↔ scope.Begins other key := by
  rw [documents.literal, sessionPrefix_iff, Begins]
  intro char member
  rw [sessionPrefix_toList] at member
  rcases List.mem_append.mp member with fixed | rest
  · have ordinary : ∀ char ∈ stem.toList, char ∉ specials := by simp [stem, specials]
    exact ordinary char fixed
  · rcases List.mem_append.mp rest with own | last
    · exact plain char own
    · rw [List.mem_singleton.mp last]
      decide

end MemoryScope

section Values

variable {glob : String → String → Bool} {scope other : MemoryScope} {key otherKey : String}

theorem find_filter_key (rows : List SessionValue) (keep : String → Bool) (sought : String) :
    (rows.filter fun stored => keep stored.key).find? (fun stored => stored.key = sought) =
      if keep sought = true then rows.find? (fun stored => stored.key = sought) else none := by
  rw [List.find?_filter]
  by_cases kept : keep sought = true
  · rw [if_pos kept]
    congr 1
    funext stored
    by_cases found : stored.key = sought
    · simp [found, kept]
    · simp [found]
  · rw [if_neg kept, List.find?_eq_none]
    intro stored _
    by_cases found : stored.key = sought
    · simp [found, kept]
    · simp [found]

theorem getSession_setSession (stores : Stores) (value : Json) :
    (stores.setSession scope key value).getSession other otherKey =
      if scope.sessionKey key = other.sessionKey otherKey then some value
      else stores.getSession other otherKey := by
  unfold Stores.setSession Stores.getSession
  simp only
  rw [List.find?_append,
    find_filter_key stores.sessions (fun stored => decide (stored ≠ scope.sessionKey key))]
  by_cases same : scope.sessionKey key = other.sessionKey otherKey
  · simp [same]
  · have apart : other.sessionKey otherKey ≠ scope.sessionKey key := fun own => same own.symm
    simp [same, apart]

theorem getSession_clearSession (stores : Stores) :
    (stores.clearSession glob scope).getSession other otherKey =
      if glob (scope.sessionPrefix ++ "*") (other.sessionKey otherKey) = true then none
      else stores.getSession other otherKey := by
  unfold Stores.clearSession Stores.getSession
  simp only
  rw [find_filter_key stores.sessions fun stored => !glob (scope.sessionPrefix ++ "*") stored]
  cases glob (scope.sessionPrefix ++ "*") (other.sessionKey otherKey) <;> rfl

/-- A value that is set for one scope is not read for another, and clearing the
first scope removes it exactly where the two are the same. -/
def KeepsApart (glob : String → String → Bool) (scope other : MemoryScope)
    (key otherKey : String) : Prop :=
  (¬(scope.Same other ∧ key = otherKey) → scope.sessionKey key ≠ other.sessionKey otherKey ∧
    ∀ (stores : Stores) (value : Json),
      (stores.setSession scope key value).getSession other otherKey =
        stores.getSession other otherKey) ∧
  ∀ (stores : Stores) (value : Json),
    ((stores.setSession other otherKey value).clearSession glob scope).getSession other otherKey =
      if scope.Same other then none else some value

theorem clears_iff :
    (∀ (stores : Stores) (value : Json),
      ((stores.setSession other otherKey value).clearSession glob scope).getSession other otherKey =
        if scope.Same other then none else some value) ↔
      (glob (scope.sessionPrefix ++ "*") (other.sessionKey otherKey) = true ↔
        scope.Same other) := by
  have reads : ∀ (stores : Stores) (value : Json),
      ((stores.setSession other otherKey value).clearSession glob scope).getSession other otherKey =
        if glob (scope.sessionPrefix ++ "*") (other.sessionKey otherKey) = true then none
        else some value := by
    intro stores value
    rw [getSession_clearSession, getSession_setSession, if_pos rfl]
  constructor
  · intro clears
    have cleared := (reads Stores.empty .null).symm.trans (clears Stores.empty .null)
    by_cases covered : glob (scope.sessionPrefix ++ "*") (other.sessionKey otherKey) = true
    · by_cases same : scope.Same other
      · exact iff_of_true covered same
      · rw [if_pos covered, if_neg same] at cleared
        cases cleared
    · by_cases same : scope.Same other
      · rw [if_neg covered, if_pos same] at cleared
        cases cleared
      · exact iff_of_false covered same
  · intro exact' stores value
    rw [reads]
    exact if_congr exact' rfl rfl

/-- The scopes and keys differ in their parts as soon as they differ, and what
begins with the parts of the first scope belongs to it. Where the first scope is
not plain, its pattern has to match just that. -/
def DifferInParts (glob : String → String → Bool) (scope other : MemoryScope)
    (key otherKey : String) : Prop :=
  (¬(scope.Same other ∧ key = otherKey) → scope.keyParts key ≠ other.keyParts otherKey) ∧
  if scope.Plain then scope.Begins other otherKey → scope.Same other
  else (glob (scope.sessionPrefix ++ "*") (other.sessionKey otherKey) = true ↔ scope.Same other)

end Values

def endUserOf (name : String) : MemoryScope := ⟨"acme", none, some name, none, by decide⟩

end Memory

end AiPlatform
