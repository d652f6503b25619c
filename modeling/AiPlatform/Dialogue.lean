import AiPlatform.AgentRuntime

/-!
The shape a message list must have for the model: the tool messages between an
assistant message and the next one answer its tool calls, each once.
`unanswered` reads a conversation from the left and keeps the ids that still
wait for a tool message. It fails on an answer that no call waits for and on an
assistant message that comes too early.
-/

namespace AiPlatform.Agents

def answers (messages : List ChatMessage) : List String :=
  messages.filterMap fun message =>
    if message.role = .tool then some (message.toolCallId.getD "") else none

def untilAssistant (messages : List ChatMessage) : List ChatMessage :=
  messages.takeWhile fun message => message.role ≠ .assistant

/-- Each assistant message is followed by exactly one tool message for each
call id before the next assistant message, and by no other tool message. Ids
are taken to be distinct within a message. -/
structure WellFormed (messages : List ChatMessage) : Prop where
  answered : ∀ before message later, messages = before ++ message :: later →
    message.role = .assistant → (message.toolCalls.map callId).Nodup →
    ∀ id, (answers (untilAssistant later)).count id =
      if id ∈ message.toolCalls.map callId then 1 else 0
  unprompted : answers (untilAssistant messages) = []

def await (waiting : Option (List String)) (message : ChatMessage) : Option (List String) :=
  match waiting with
  | none => none
  | some ids =>
      match message.role with
      | .assistant => if ids = [] then some (message.toolCalls.map callId) else none
      | .tool =>
          match ids with
          | [] => none
          | id :: rest => if message.toolCallId = some id then some rest else none
      | .system | .user => some ids

def awaiting (messages : List ChatMessage) : Option (List String) :=
  messages.foldl await (some [])

def unanswered (conversation : List Entry) : Option (List String) :=
  awaiting (conversation.map chatMessage)

theorem untilAssistant_cons (message : ChatMessage) (rest : List ChatMessage) :
    untilAssistant (message :: rest) =
      if message.role = .assistant then [] else message :: untilAssistant rest := by
  by_cases role : message.role = .assistant <;> simp [untilAssistant, role]

theorem answers_cons (message : ChatMessage) (rest : List ChatMessage) :
    answers (message :: rest) =
      if message.role = .tool then message.toolCallId.getD "" :: answers rest
      else answers rest := by
  by_cases role : message.role = .tool <;> simp [answers, role]

theorem foldl_await_none (messages : List ChatMessage) : messages.foldl await none = none := by
  induction messages with
  | nil => rfl
  | cons message rest ih => exact ih

theorem answers_of_await (messages : List ChatMessage) (ids : List String)
    (balanced : messages.foldl await (some ids) = some []) :
    answers (untilAssistant messages) = ids := by
  induction messages generalizing ids with
  | nil =>
      cases balanced
      rfl
  | cons message rest ih =>
      rw [List.foldl_cons] at balanced
      rw [untilAssistant_cons]
      cases role : message.role with
      | assistant =>
          by_cases none : ids = []
          · simp [answers, none]
          · simp [await, role, none, foldl_await_none] at balanced
      | tool =>
          cases ids with
          | nil => simp [await, role, foldl_await_none] at balanced
          | cons id later =>
              by_cases same : message.toolCallId = some id
              · simp only [await, role, same, if_true] at balanced
                simp [answers_cons, role, same, ih later balanced]
              · simp [await, role, same, foldl_await_none] at balanced
      | system =>
          simp only [await, role] at balanced
          simp [answers_cons, role, ih ids balanced]
      | user =>
          simp only [await, role] at balanced
          simp [answers_cons, role, ih ids balanced]

theorem wellFormed_of_awaiting (messages : List ChatMessage) (balanced : awaiting messages = some []) :
    WellFormed messages := by
  refine ⟨?_, answers_of_await messages [] balanced⟩
  intro before message later split role distinct id
  rw [awaiting, split, List.foldl_append, List.foldl_cons] at balanced
  cases waiting : before.foldl await (some []) with
  | none =>
      rw [waiting] at balanced
      simp [await, foldl_await_none] at balanced
  | some ids =>
      rw [waiting] at balanced
      by_cases none : ids = []
      · simp only [await, role, none, if_true] at balanced
        rw [answers_of_await later _ balanced]
        by_cases member : id ∈ message.toolCalls.map callId
        · rw [if_pos member]
          exact List.count_eq_one_of_mem distinct member
        · rw [if_neg member]
          exact List.count_eq_zero_of_not_mem member
      · simp [await, role, none, foldl_await_none] at balanced

theorem unanswered_append (conversation : List Entry) (entry : Entry) :
    unanswered (conversation ++ [entry]) = await (unanswered conversation) (chatMessage entry) := by
  simp [unanswered, awaiting, List.foldl_append]

theorem unanswered_assistant {conversation : List Entry} (completion : ChatCompletion)
    (settled : unanswered conversation = some []) :
    unanswered (conversation ++ [assistantMessage completion]) =
      some (completion.toolCalls.map callId) := by
  rw [unanswered_append, settled]
  simp [await, chatMessage, assistantMessage]

theorem unanswered_tool {conversation : List Entry} {call : ToolCall} {rest : List String}
    (content : String) (waiting : unanswered conversation = some (callId call :: rest)) :
    unanswered (conversation ++ [toolMessage call content]) = some rest := by
  rw [unanswered_append, waiting]
  simp [await, chatMessage, toolMessage]

theorem unanswered_system (conversation : List Entry) (content : String) :
    unanswered (plainMessage .system content :: conversation) = unanswered conversation := by
  simp [unanswered, awaiting, await, chatMessage, plainMessage]

theorem unanswered_user (content : String) : unanswered [plainMessage .user content] = some [] := by
  simp [unanswered, awaiting, await, chatMessage, plainMessage]

theorem prompt_wellFormed (systemPrompt : String) {conversation : List Entry}
    (settled : unanswered conversation = some []) :
    WellFormed (toChatMessages systemPrompt conversation) := by
  refine wellFormed_of_awaiting _ ?_
  simpa [toChatMessages, awaiting, await, unanswered] using settled

end AiPlatform.Agents
