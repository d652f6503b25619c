import AiPlatform.MemoryService
import Mathlib.Data.List.Induction

/-!
The rolling summary of a conversation. A thread is a conversation with its store and with
what the model was given for the summary it has; messages are appended to it and it is
summarised, in any order. The summary and the recent window are then compared with all
the messages there are.
-/

namespace AiPlatform.Memory

open Agents (clip)

/-- `f"{m.role}: {m.content}"` -/
def line (said : String × String) : List Char := said.1.toList ++ ':' :: ' ' :: said.2.toList

def transcript : List (String × String) → List Char
  | [] => []
  | [said] => line said
  | said :: next :: rest => line said ++ '\n' :: transcript (next :: rest)

def ConversationMessage.said (message : ConversationMessage) : String × String :=
  (message.role, message.content)

/-- `transcript[:20000]` -/
def transcriptLimit : Nat := 20000

/-- The messages whose lines are whole in the first `limit` characters of the transcript. -/
def whole (limit : Nat) : List ConversationMessage → List ConversationMessage
  | [] => []
  | message :: rest =>
      if (line message.said).length ≤ limit then
        message :: whole (limit - (line message.said).length - 1) rest
      else []

/-- What the model was given for a summary: the messages, and what the summary before
stands for if it was given along. -/
inductive Basis
  | of (messages : List ConversationMessage) (before : Option Basis)

/-- The message was given for the summary, directly or through the one before. -/
inductive Basis.Covers : Basis → ConversationMessage → Prop
  | direct {messages : List ConversationMessage} {before : Option Basis}
      {message : ConversationMessage} (given : message ∈ messages) : Covers (.of messages before) message
  | through {messages : List ConversationMessage} {basis : Basis} {message : ConversationMessage}
      (covers : basis.Covers message) : Covers (.of messages (some basis)) message

structure Thread where
  stores : Stores
  /-- What the current summary was made of. -/
  basis : Option Basis

inductive Turn
  | append (role content : String) (runId : Option Uuid) (now : Nat)
  /-- The model answers the prompt, or it is unreachable. -/
  | summarise (answer : Option String)

def Thread.step (id : Uuid) (thread : Thread) : Turn → Thread
  | .append role content runId now =>
      { thread with stores := thread.stores.appendMessage id role content runId now }
  | .summarise answer =>
      match thread.stores.conversations.find? (·.id = id) with
      | none => thread
      | some conversation =>
          match thread.stores.summarizeConversation conversation fun _ => answer with
          | (none, stores) => { thread with stores := stores }
          -- The prompt is an instruction and the transcript: the summary before is not in it.
          | (some _, stores) =>
              { stores := stores
                basis := some (.of (whole transcriptLimit
                  (recent thread.stores.messages conversation.id summariseAfterMessages)) none) }

structure Opened where
  stores : Stores
  conversation : Conversation
  found : stores.conversations.find? (·.id = conversation.id) = some conversation
  counted : conversation.messageCount = 0
  silent : ∀ message ∈ stores.messages, message.conversationId ≠ conversation.id

namespace Opened

def id (opened : Opened) : Uuid := opened.conversation.id

def thread (opened : Opened) (turns : List Turn) : Thread :=
  turns.foldl (Thread.step opened.id) ⟨opened.stores, none⟩

end Opened

def messagesOf (messages : List ConversationMessage) (id : Uuid) : List ConversationMessage :=
  messages.filter (·.conversationId = id)

/-- Every message is in the recent window or was part of what the summary was made of. -/
def Thread.Covered (thread : Thread) (id : Uuid) (limit : Nat) : Prop :=
  ∀ message ∈ messagesOf thread.stores.messages id,
    message ∈ recent thread.stores.messages id limit ∨
      ∃ basis, thread.basis = some basis ∧ basis.Covers message

section Transcripts

variable {history front : List ConversationMessage} {limit : Nat}

theorem line_length (said : String × String) : 2 ≤ (line said).length := by
  simp only [line, List.length_append, List.length_cons]
  omega

theorem transcript_cons_length (said : String × String) {rest : List (String × String)}
    (some : rest ≠ []) :
    (transcript (said :: rest)).length = (line said).length + 1 + (transcript rest).length := by
  cases rest with
  | nil => exact absurd rfl some
  | cons next rest =>
      rw [transcript, List.length_append, List.length_cons]
      omega

theorem whole_front (limit : Nat) (history : List ConversationMessage) :
    whole limit history <+: history := by
  induction history generalizing limit with
  | nil => exact List.prefix_refl _
  | cons message rest ih =>
      rw [whole]
      split
      · exact List.cons_prefix_cons.mpr ⟨rfl, ih _⟩
      · exact List.nil_prefix

theorem prefix_whole (within : front <+: history) :
    front <+: whole limit history ↔
      (transcript (front.map ConversationMessage.said)).length ≤ limit := by
  induction history generalizing front limit with
  | nil =>
      rw [List.prefix_nil.mp within]
      simp [whole, transcript]
  | cons message rest ih =>
      cases front with
      | nil => simp [transcript]
      | cons first front =>
          obtain ⟨rfl, inner⟩ := List.cons_prefix_cons.mp within
          have positive := line_length first.said
          rw [whole, List.map_cons]
          split
          · next fits =>
              rw [List.cons_prefix_cons]
              simp only [true_and]
              rw [ih inner]
              cases front with
              | nil => simp [transcript, fits]
              | cons second front =>
                  have later := line_length second.said
                  have some : (second :: front).map ConversationMessage.said ≠ [] := by simp
                  have grows : 2 ≤ (transcript ((second :: front).map ConversationMessage.said)).length := by
                    rw [List.map_cons]
                    cases front with
                    | nil => exact later
                    | cons third front =>
                        rw [List.map_cons, transcript_cons_length _ (by simp)]
                        omega
                  rw [transcript_cons_length _ some]
                  omega
          · next long =>
              refine iff_of_false (by simp) ?_
              cases front with
              | nil => simpa [transcript] using long
              | cons second front =>
                  rw [transcript_cons_length _ (by simp)]
                  omega

end Transcripts

def said (turns : List Turn) : List (String × String) :=
  turns.filterMap fun
    | .append role content _ _ => some (role, content)
    | .summarise _ => none

def summarisedAt (turns : List Turn) : Option Nat :=
  (turns.foldl (fun (count, made) turn => match turn with
    | .append _ _ _ _ => (count + 1, made)
    | .summarise answer =>
        (count, if summariseAfterMessages ≤ count ∧ answer.isSome then some count else made))
    (0, none)).2

structure Kept (id : Uuid) (messages : List ConversationMessage) : Prop where
  ordinals : (messagesOf messages id).map (·.ordinal) =
    List.range' 1 (messagesOf messages id).length

section Rows

variable {id : Uuid} {messages : List ConversationMessage} {limit : Nat}
  {message : ConversationMessage}

theorem foldl_range' (n : Nat) : (List.range' 1 n).foldl max 0 = n := by
  induction n with
  | zero => rfl
  | succ n ih =>
      rw [List.range'_1_concat, List.foldl_append, ih, List.foldl_cons, List.foldl_nil]
      omega

theorem nextOrdinal_kept (kept : Kept id messages) :
    nextOrdinal messages id = (messagesOf messages id).length + 1 := by
  have highest : (messagesOf messages id).foldl (fun highest message => max highest message.ordinal) 0 =
      (messagesOf messages id).length := by
    rw [← foldl_range' (messagesOf messages id).length, ← kept.ordinals, List.foldl_map]
  exact congrArg (· + 1) highest

theorem ordinal_at (kept : Kept id messages) {place : Nat}
    (found : (messagesOf messages id)[place]? = some message) : message.ordinal = place + 1 := by
  have short := (List.getElem?_eq_some_iff.mp found).1
  have same := congrArg (·[place]?) kept.ordinals
  simp only [List.getElem?_map, found, Option.map_some, List.getElem?_range' short,
    Option.some.injEq] at same
  omega

theorem placed (kept : Kept id messages) (member : message ∈ messagesOf messages id) :
    ∃ place, (messagesOf messages id)[place]? = some message ∧ message.ordinal = place + 1 := by
  obtain ⟨place, found⟩ := List.mem_iff_getElem?.mp member
  exact ⟨place, found, ordinal_at kept found⟩

theorem mem_take_kept (kept : Kept id messages) (member : message ∈ messagesOf messages id)
    {n : Nat} : message ∈ (messagesOf messages id).take n ↔ message.ordinal ≤ n := by
  constructor
  · intro taken
    obtain ⟨place, found⟩ := List.mem_iff_getElem?.mp taken
    rw [List.getElem?_take] at found
    split at found
    · rw [ordinal_at kept found]
      omega
    · cases found
  · intro low
    obtain ⟨place, found, number⟩ := placed kept member
    refine List.mem_iff_getElem?.mpr ⟨place, ?_⟩
    rw [List.getElem?_take, if_pos (by omega), found]

theorem mem_drop_kept (kept : Kept id messages) (member : message ∈ messagesOf messages id)
    {n : Nat} : message ∈ (messagesOf messages id).drop n ↔ n < message.ordinal := by
  constructor
  · intro dropped
    obtain ⟨place, found⟩ := List.mem_iff_getElem?.mp dropped
    rw [List.getElem?_drop] at found
    rw [ordinal_at kept found]
    omega
  · intro high
    obtain ⟨place, found, number⟩ := placed kept member
    refine List.mem_iff_getElem?.mpr ⟨place - n, ?_⟩
    rw [List.getElem?_drop, Nat.add_sub_cancel' (by omega), found]

theorem sorted_kept (kept : Kept id messages) :
    ((messagesOf messages id).mergeSort fun left right => right.ordinal ≤ left.ordinal) =
      (messagesOf messages id).reverse := by
  have ordered : ((messagesOf messages id).map (·.ordinal)).Pairwise (· ≤ ·) := by
    rw [kept.ordinals]
    exact List.pairwise_le_range'
  refine List.Perm.eq_of_pairwise ?_ (List.pairwise_mergeSort ?_ ?_ _) ?_
    ((List.mergeSort_perm _ _).trans (List.reverse_perm _).symm)
  · intro left right first second below above
    obtain ⟨place, found, number⟩ := placed kept (List.mem_mergeSort.mp first)
    obtain ⟨other, again, same⟩ := placed kept (List.mem_reverse.mp second)
    have one : place = other := by
      have below := of_decide_eq_true below
      have above := of_decide_eq_true above
      omega
    rw [one, again] at found
    exact (Option.some.inj found).symm
  · intro first second third below above
    simp only [decide_eq_true_eq] at below above ⊢
    omega
  · intro first second
    simp only [Bool.or_eq_true, decide_eq_true_eq]
    omega
  · rw [List.pairwise_reverse]
    simpa [List.pairwise_map] using ordered

theorem recent_kept (kept : Kept id messages) (limit : Nat) :
    recent messages id limit =
      (messagesOf messages id).drop ((messagesOf messages id).length - limit) := by
  have sorted := sorted_kept kept
  unfold messagesOf at sorted ⊢
  rw [recent, sorted, List.reverse_take, List.reverse_reverse, List.length_reverse]

end Rows

theorem said_append (turns : List Turn) (turn : Turn) :
    said (turns ++ [turn]) = said turns ++ said [turn] := List.filterMap_append

structure Holds (id : Uuid) (thread : Thread) (turns : List Turn) : Prop where
  kept : Kept id thread.stores.messages
  texts : (messagesOf thread.stores.messages id).map ConversationMessage.said = said turns
  found : ∃ conversation, thread.stores.conversations.find? (·.id = id) = some conversation ∧
    conversation.id = id ∧ conversation.messageCount = (said turns).length
  made : ∀ count, summarisedAt turns = some count →
    summariseAfterMessages ≤ count ∧ count ≤ (said turns).length ∧
      thread.basis = some (.of (whole transcriptLimit
        (((messagesOf thread.stores.messages id).take count).drop
          (count - summariseAfterMessages))) none)
  unmade : summarisedAt turns = none → thread.basis = none

section Runs

variable {id : Uuid} {thread : Thread} {turns : List Turn} {limit : Nat}

theorem counted_fold (turns : List Turn) :
    (turns.foldl (fun (count, made) turn => match turn with
      | .append _ _ _ _ => (count + 1, made)
      | .summarise answer =>
          (count, if summariseAfterMessages ≤ count ∧ answer.isSome then some count else made))
      ((0, none) : Nat × Option Nat)).1 = (said turns).length := by
  induction turns using List.reverseRecOn with
  | nil => rfl
  | append_singleton rest turn ih =>
      rw [List.foldl_append, said_append, List.length_append, ← ih]
      cases turn <;> rfl

theorem summarisedAt_append (role content : String) (runId : Option Uuid) (now : Nat) :
    summarisedAt (turns ++ [.append role content runId now]) = summarisedAt turns := by
  simp [summarisedAt, List.foldl_append]

theorem summarisedAt_summarise (answer : Option String) :
    summarisedAt (turns ++ [.summarise answer]) =
      if summariseAfterMessages ≤ (said turns).length ∧ answer.isSome then
        some (said turns).length
      else summarisedAt turns := by
  rw [← counted_fold turns]
  simp [summarisedAt, List.foldl_append]

theorem Holds.length (holds : Holds id thread turns) :
    (messagesOf thread.stores.messages id).length = (said turns).length := by
  rw [← holds.texts, List.length_map]

theorem find_edited {conversations : List Conversation} {conversation : Conversation}
    {edit : Conversation → Conversation} (keeps : ∀ other, (edit other).id = other.id)
    (found : conversations.find? (·.id = id) = some conversation) :
    (conversations.map fun other => if other.id = id then edit other else other).find? (·.id = id) =
      some (edit conversation) := by
  have same : ((fun other : Conversation => decide (other.id = id)) ∘
      fun other => if other.id = id then edit other else other) = fun other => decide (other.id = id) := by
    funext other
    by_cases keyed : other.id = id <;> simp [keyed, keeps]
  rw [List.find?_map, same, found, Option.map_some, if_pos (by simpa using List.find?_some found)]

theorem Holds.append (holds : Holds id thread turns) (role content : String)
    (runId : Option Uuid) (now : Nat) :
    Holds id (thread.step id (.append role content runId now))
      (turns ++ [.append role content runId now]) := by
  have length := holds.length
  have rows : messagesOf (thread.step id (.append role content runId now)).stores.messages id =
      messagesOf thread.stores.messages id ++
        [⟨id, (said turns).length + 1, role, content, runId⟩] := by
    have last := nextOrdinal_kept holds.kept
    rw [length] at last
    simp [Thread.step, Stores.appendMessage, messagesOf, last]
  refine ⟨⟨?_⟩, ?_, ?_, ?_, ?_⟩
  · rw [rows, List.map_append, holds.kept.ordinals, List.length_append, length,
      List.length_singleton, List.range'_1_concat, Nat.add_comm 1]
    rfl
  · rw [rows, List.map_append, holds.texts, said_append]
    rfl
  · obtain ⟨conversation, found, keyed, counted⟩ := holds.found
    refine ⟨_, find_edited (fun _ => rfl) found, keyed, ?_⟩
    rw [said_append, List.length_append, ← counted]
    rfl
  · intro count made
    rw [summarisedAt_append] at made
    obtain ⟨enough, within, basis⟩ := holds.made count made
    refine ⟨enough, ?_, ?_⟩
    · rw [said_append, List.length_append]
      omega
    · rw [rows, List.take_append_of_le_length (by omega)]
      exact basis
  · intro unmade
    rw [summarisedAt_append] at unmade
    exact holds.unmade unmade

theorem step_summarise (holds : Holds id thread turns) (answer : Option String) :
    ((summariseAfterMessages ≤ (said turns).length ∧ answer.isSome) ∧
      (thread.step id (.summarise answer)).basis = some (.of (whole transcriptLimit
        ((messagesOf thread.stores.messages id).drop
          ((said turns).length - summariseAfterMessages))) none)) ∨
    (¬(summariseAfterMessages ≤ (said turns).length ∧ answer.isSome) ∧
      (thread.step id (.summarise answer)).basis = thread.basis) := by
  obtain ⟨conversation, found, keyed, counted⟩ := holds.found
  have read := recent_kept holds.kept summariseAfterMessages
  rw [holds.length] at read
  by_cases enough : summariseAfterMessages ≤ (said turns).length
  · have more : ¬conversation.messageCount < summariseAfterMessages := by omega
    cases answer with
    | none => exact .inr ⟨by simp, by simp [Thread.step, found, Stores.summarizeConversation, more]⟩
    | some content =>
        refine .inl ⟨⟨enough, rfl⟩, ?_⟩
        rw [← read, ← keyed]
        simp [Thread.step, found, Stores.summarizeConversation, more, keyed]
  · have few : conversation.messageCount < summariseAfterMessages := by omega
    refine .inr ⟨fun both => enough both.1, ?_⟩
    simp [Thread.step, found, Stores.summarizeConversation, few]

theorem stores_summarise (holds : Holds id thread turns) (answer : Option String) :
    (thread.step id (.summarise answer)).stores.messages = thread.stores.messages ∧
      ∃ conversation,
        (thread.step id (.summarise answer)).stores.conversations.find? (·.id = id) =
          some conversation ∧
        conversation.id = id ∧ conversation.messageCount = (said turns).length := by
  obtain ⟨conversation, found, rfl, counted⟩ := holds.found
  have stores : (thread.step conversation.id (.summarise answer)).stores =
      (thread.stores.summarizeConversation conversation fun _ => answer).2 := by
    simp only [Thread.step, found]
    split <;> simp [*]
  rw [stores]
  unfold Stores.summarizeConversation
  split
  · exact ⟨rfl, conversation, found, rfl, counted⟩
  · cases answer with
    | none => exact ⟨rfl, conversation, found, rfl, counted⟩
    | some content =>
        exact ⟨rfl, { conversation with summary := some content },
          @find_edited conversation.id _ _ (fun other => { other with summary := some content })
            (fun _ => rfl) found, rfl, counted⟩

theorem Holds.summarise (holds : Holds id thread turns) (answer : Option String) :
    Holds id (thread.step id (.summarise answer)) (turns ++ [.summarise answer]) := by
  obtain ⟨rows, found⟩ := stores_summarise holds answer
  have texts : said (turns ++ [.summarise answer]) = said turns := by
    rw [said_append]
    exact List.append_nil _
  have length := holds.length
  refine ⟨rows ▸ holds.kept, ?_, ?_, ?_, ?_⟩
  · rw [rows, texts]
    exact holds.texts
  · rw [texts]
    exact found
  · intro count made
    rw [summarisedAt_summarise] at made
    rw [rows, texts]
    rcases step_summarise holds answer with ⟨answers, basis⟩ | ⟨fails, basis⟩
    · rw [if_pos answers, Option.some.injEq] at made
      subst made
      refine ⟨answers.1, Nat.le_refl _, ?_⟩
      rw [basis, List.take_of_length_le (Nat.le_of_eq length)]
    · rw [if_neg fails] at made
      rw [basis]
      exact holds.made count made
  · intro unmade
    rw [summarisedAt_summarise] at unmade
    rcases step_summarise holds answer with ⟨answers, _⟩ | ⟨fails, basis⟩
    · rw [if_pos answers] at unmade
      cases unmade
    · rw [if_neg fails] at unmade
      rw [basis]
      exact holds.unmade unmade

theorem holds_thread (opened : Opened) (turns : List Turn) :
    Holds opened.id (opened.thread turns) turns := by
  induction turns using List.reverseRecOn with
  | nil =>
      have nothing : messagesOf (opened.thread []).stores.messages opened.id = [] := by
        refine List.filter_eq_nil_iff.mpr fun message member same => ?_
        exact opened.silent message member (of_decide_eq_true same)
      refine ⟨⟨?_⟩, ?_, ⟨opened.conversation, opened.found, rfl, opened.counted⟩, ?_, fun _ => rfl⟩
      · rw [nothing]
        rfl
      · rw [nothing]
        rfl
      · intro count made
        cases made
  | append_singleton rest turn ih =>
      have step : opened.thread (rest ++ [turn]) = (opened.thread rest).step opened.id turn := by
        simp [Opened.thread, List.foldl_append]
      rw [step]
      cases turn with
      | append role content runId now => exact ih.append role content runId now
      | summarise answer => exact ih.summarise answer

/-- The window has all the messages, or the summary was made of the first forty messages,
and what is before the window is among these and within the text that is cut. -/
structure Spans (turns : List Turn) (limit : Nat) : Prop where
  first : summarisedAt turns = some summariseAfterMessages
  within : (said turns).length ≤ limit + summariseAfterMessages
  short : (transcript ((said turns).take ((said turns).length - limit))).length ≤ transcriptLimit

theorem covered_before (holds : Holds id thread turns) :
    thread.Covered id limit ↔ ∀ message ∈ messagesOf thread.stores.messages id,
      message.ordinal ≤ (said turns).length - limit →
        ∃ basis, thread.basis = some basis ∧ basis.Covers message := by
  have window := recent_kept holds.kept limit
  rw [holds.length] at window
  constructor
  · intro covered message member before
    rcases covered message member with recent | summary
    · rw [window, mem_drop_kept holds.kept member] at recent
      omega
    · exact summary
  · intro before message member
    by_cases low : message.ordinal ≤ (said turns).length - limit
    · exact .inr (before message member low)
    · refine .inl ?_
      rw [window, mem_drop_kept holds.kept member]
      omega

theorem covers_of {messages : List ConversationMessage} {message : ConversationMessage} :
    (Basis.of messages none).Covers message ↔ message ∈ messages := by
  constructor
  · intro covers
    cases covers with
    | direct given => exact given
  · exact .direct

theorem said_take (holds : Holds id thread turns) (n : Nat) :
    (said turns).take n =
      ((messagesOf thread.stores.messages id).take n).map ConversationMessage.said := by
  rw [List.map_take, holds.texts]

theorem covered_spans (holds : Holds id thread turns) (covered : thread.Covered id limit) :
    (said turns).length ≤ limit ∨ Spans turns limit := by
  by_cases fits : (said turns).length ≤ limit
  · exact .inl fits
  right
  have length := holds.length
  have before := (covered_before holds).mp covered
  have numbered {number : Nat} (low : 1 ≤ number) (high : number ≤ (said turns).length) :
      ∃ message ∈ messagesOf thread.stores.messages id, message.ordinal = number := by
    have short : number - 1 < (messagesOf thread.stores.messages id).length := by omega
    refine ⟨_, List.getElem_mem short, ?_⟩
    rw [ordinal_at holds.kept (List.getElem?_eq_getElem short)]
    omega
  -- The first message can only be among the last forty of forty.
  obtain ⟨first, member, one⟩ := numbered (Nat.le_refl 1) (by omega)
  obtain ⟨basis, made, covers⟩ := before first member (by omega)
  obtain ⟨count, at_⟩ : ∃ count, summarisedAt turns = some count := by
    refine Option.ne_none_iff_exists'.mp fun none => ?_
    rw [holds.unmade none] at made
    cases made
  obtain ⟨enough, _, made⟩ := holds.made count at_
  have exactly : count = summariseAfterMessages := by
    obtain ⟨_, same, covers⟩ := before first member (by omega)
    rw [made, Option.some.injEq] at same
    subst same
    have inside := (whole_front _ _).subset (covers_of.mp covers)
    rw [List.drop_take] at inside
    have late := (mem_drop_kept holds.kept member).mp (List.mem_of_mem_take inside)
    omega
  subst exactly
  rw [Nat.sub_self, List.drop_zero] at made
  have front := whole_front transcriptLimit
    ((messagesOf thread.stores.messages id).take summariseAfterMessages)
  -- So is the last one before the window, in full.
  obtain ⟨last, member, number⟩ : ∃ message ∈ messagesOf thread.stores.messages id,
      message.ordinal = (said turns).length - limit := numbered (by omega) (by omega)
  obtain ⟨_, same, covers⟩ := before last member (by omega)
  rw [made, Option.some.injEq] at same
  subst same
  have given := covers_of.mp covers
  have within := (mem_take_kept holds.kept member).mp (front.subset given)
  refine ⟨at_, by omega, ?_⟩
  rw [said_take holds]
  obtain ⟨many, shape⟩ : ∃ many, whole transcriptLimit
      ((messagesOf thread.stores.messages id).take summariseAfterMessages) =
        (messagesOf thread.stores.messages id).take many :=
    ⟨_, List.prefix_iff_eq_take.mp (front.trans (List.take_prefix _ _))⟩
  rw [shape] at given
  have reaches := (mem_take_kept holds.kept member).mp given
  have begins : (messagesOf thread.stores.messages id).take ((said turns).length - limit) <+:
      (messagesOf thread.stores.messages id).take summariseAfterMessages :=
    List.take_prefix_take_left (by omega)
  refine (prefix_whole begins).mp ?_
  rw [shape]
  exact List.take_prefix_take_left (by omega)

theorem spans_covered (holds : Holds id thread turns)
    (spans : (said turns).length ≤ limit ∨ Spans turns limit) : thread.Covered id limit := by
  refine (covered_before holds).mpr fun message member before => ?_
  rcases spans with fits | spans
  · obtain ⟨place, _, number⟩ := placed holds.kept member
    omega
  · obtain ⟨_, _, basis⟩ := holds.made _ spans.first
    refine ⟨_, basis, covers_of.mpr ?_⟩
    rw [Nat.sub_self, List.drop_zero]
    have taken := (mem_take_kept holds.kept member).mpr before
    have short := spans.short
    have within := spans.within
    rw [said_take holds] at short
    exact ((prefix_whole (List.take_prefix_take_left (by omega))).mpr short).subset taken

end Runs

/-- The summary and the window cover a conversation exactly if the window has all of it, or
the summary has its beginning. -/
theorem summary_and_window_cover_iff (opened : Opened) (turns : List Turn) (limit : Nat) :
    (opened.thread turns).Covered opened.id limit ↔
      (said turns).length ≤ limit ∨ Spans turns limit :=
  ⟨covered_spans (holds_thread opened turns), spans_covered (holds_thread opened turns)⟩

def thread7 : Conversation where
  id := ⟨7⟩
  tenantId := "default"
  userId := none
  endUser := some "ada"
  agentId := none
  externalId := some "thread"
  title := none
  summary := none
  messageCount := 0
  lastActivityAt := none

def opened7 : Opened where
  stores := { Stores.empty with conversations := [thread7] }
  conversation := thread7
  found := by simp
  counted := rfl
  silent := fun _ member => nomatch member

/-- A conversation is summarised at its forty-first message, and its first one is lost. -/
theorem the_first_message_is_lost : ∃ turns,
    ¬(opened7.thread turns).Covered opened7.id 20 := by
  refine ⟨List.replicate 41 (.append "user" "Hello." none 0) ++ [.summarise (some "They met.")],
    fun covered => ?_⟩
  rcases covered_spans (holds_thread opened7 _) covered with fits | spans
  · revert fits
    decide
  · have first := spans.first
    revert first
    decide

end AiPlatform.Memory
