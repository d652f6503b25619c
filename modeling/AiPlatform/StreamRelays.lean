import AiPlatform.EventStreams
import AiPlatform.GatewayUsage
import AiPlatform.Trimming

/-!
A completion stream on its way from an engine to a client: `chat_stream` reads
the lines of the engine's answer, `stream_chunks` writes each chunk anew. The
same reading of a payload says what the engine told and what the client is told,
so that the two can be compared. `json.loads` and the places at which
`aiter_lines` breaks a line of the stream are parameters; ids and times of the
chunks are left out. The client stays to the end.
-/

namespace AiPlatform.StreamRelays

open Agents (Json Dict isSpace)
open EventStreams
open Metering (field first items orElse usageOf add number TokenUsage)
open Trimming (trim)

inductive Piece
  | content (choice : Nat) (content : Json)
  | toolCall (choice : Nat) (fragment : Json)
  | finish (choice : Nat) (reason : Json)

def Piece.choice : Piece → Nat
  | .content choice _ | .toolCall choice _ | .finish choice _ => choice

def member (fields : Dict) (key : String) : Json := (fields.lookup key).getD .null

def entries : Json → List Json
  | .arr items => items
  | _ => []

def fieldsOf : Json → Dict
  | .obj fields => fields
  | _ => []

def finishing (choice : Nat) : Json → List Piece
  | .null => []
  | reason => [.finish choice reason]

def pieces (choice : Nat) (content : Json) (toolCalls : List Json) (finishReason : Json) :
    List Piece :=
  (if content.truthy then [.content choice content] else []) ++
    toolCalls.map (.toolCall choice) ++ finishing choice finishReason

def choiceSays (choice : Json) (place : Nat) : List Piece :=
  let delta := fieldsOf (member (fieldsOf choice) "delta")
  pieces place (member delta "content") (entries (member delta "tool_calls"))
    (member (fieldsOf choice) "finish_reason")

def choicesSay (choices : List Json) (place : Nat) : List Piece :=
  (choices.zipIdx place).flatMap fun (choice, place) => choiceSays choice place

def said (payload : Json) : List Piece :=
  choicesSay (entries (member (fieldsOf payload) "choices")) 0

def spent (payload : Json) : List (Json × Json) :=
  match fieldsOf (member (fieldsOf payload) "usage") with
  | [] => []
  | usage => [((usage.lookup "prompt_tokens").getD (.num 0),
      (usage.lookup "completion_tokens").getD (.num 0))]

structure ChatCompletionChunk where
  delta : Json
  finishReason : Json
  toolCalls : List Json
  usage : Option TokenUsage

/-- `choices[0]`, where there are choices. -/
def firstChoice (choices : Json) : Except String (Option Json) :=
  if choices.truthy then (first choices).map some else .ok none

/-- `choices[0].get("delta") or {}` -/
def deltaOf : Option Json → Except String Json
  | none => .ok (.obj [])
  | some choice => (field choice "delta" .null).map fun delta => orElse delta (.obj [])

/-- `choices[0].get("finish_reason")` -/
def finishOf : Option Json → Except String Json
  | none => .ok .null
  | some choice => field choice "finish_reason" .null

/-- `_usage(event["usage"]) if event.get("usage") else None` -/
def chunkUsage (usage : Json) : Except String (Option TokenUsage) :=
  if usage.truthy then (usageOf usage).map some else .ok none

def chunkOf (event : Json) : Except String ChatCompletionChunk := do
  let choice ← firstChoice (← field event "choices" .null)
  let delta ← deltaOf choice
  let content ← field delta "content" .null
  let finishReason ← finishOf choice
  let toolCalls ← items (orElse (← field delta "tool_calls" .null) (.arr []))
  let usage ← chunkUsage (← field event "usage" .null)
  .ok ⟨orElse content (.str ""), finishReason, toolCalls, usage⟩

/-- How the reading of a stream ends; `httpx.HTTPError` becomes `ProviderError`. -/
inductive StreamEnd
  | completed
  | failed (message : String)
  | raised (typeName : String)

/-- What stands behind the last line: the end of the answer, or an `httpx.HTTPError`. -/
inductive Connection
  | closed
  | broken (typeName : String)

def Connection.ends : Connection → StreamEnd
  | .closed => .completed
  | .broken typeName => .failed ("Inference stream failed: " ++ typeName)

def done : Line := "[DONE]".toList

structure Reader where
  loads : Line → Option Json
  /-- Where `aiter_lines` ends a line, besides at the ends of the lines. -/
  breaks : Char → Bool

variable (reader : Reader) (connection : Connection)

def Reader.aiterLines (lines : List Line) : List Line :=
  lines.flatMap fun line => line.splitOnP reader.breaks

/-- The loop of `chat_stream`. -/
def chatStream : List Line → List ChatCompletionChunk × StreamEnd
  | [] => ([], connection.ends)
  | line :: rest =>
      match spacedData line with
      | none => chatStream rest
      | some value =>
          let data := trim isSpace value
          if data = done then ([], .completed)
          else
            match reader.loads data with
            | none => chatStream rest
            | some event =>
                match chunkOf event with
                | .error typeName => ([], .raised typeName)
                | .ok chunk =>
                    let (chunks, ending) := chatStream rest
                    (chunk :: chunks, ending)

inductive Frame
  | json (payload : Json)
  | done

def Frame.told : Frame → List Piece
  | .json payload => said payload
  | .done => []

/-- The frames of the client, what is assigned to the accounting, of which the
last is recorded, and what leaves the generator. -/
structure Relay where
  frames : List Frame
  assigned : List (Json × Json)
  raised : Option String

def Relay.said (relay : Relay) : List Piece := relay.frames.flatMap Frame.told

/-- The usage that `finalise_stream` records. -/
def Relay.recorded (relay : Relay) : Json × Json := relay.assigned.getLastD (.num 0, .num 0)

def sse (requestedModel : String) (fields : Dict) : Frame :=
  .json (.obj (("object", .str "chat.completion.chunk") :: ("model", .str requestedModel) ::
    fields))

def deltaFrame (requestedModel : String) (chunk : ChatCompletionChunk) : Frame :=
  let delta := (if chunk.delta.truthy then [("content", chunk.delta)] else []) ++
    if chunk.toolCalls.isEmpty then [] else [("tool_calls", .arr chunk.toolCalls)]
  sse requestedModel [("choices", .arr [.obj
    [("index", .num 0), ("delta", .obj delta), ("finish_reason", chunk.finishReason)]])]

def usageFrame (requestedModel : String) (usage : TokenUsage) : Frame :=
  sse requestedModel [("choices", .arr []), ("usage", .obj
    [("prompt_tokens", usage.promptTokens), ("completion_tokens", usage.completionTokens),
      ("total_tokens", usage.totalTokens)])]

def errorFrame (message : String) : Frame :=
  .json (.obj [("error", .obj
    [("message", .str (Agents.clip message 300)), ("type", .str "upstream_error")])])

def concluded : StreamEnd → Relay
  | .completed => ⟨[.done], [], none⟩
  | .failed message => ⟨[errorFrame message, .done], [], none⟩
  | .raised typeName => ⟨[], [], some typeName⟩

/-- One turn of the loop of `stream_chunks`, before the later ones. -/
def Relay.forward (requestedModel : String) (wantsUsage : Bool) (chunk : ChatCompletionChunk)
    (later : Relay) : Relay :=
  match chunk.usage with
  | some usage =>
      { later with
        frames := if wantsUsage then usageFrame requestedModel usage :: later.frames
          else later.frames
        assigned := (usage.promptTokens, usage.completionTokens) :: later.assigned }
  | none => { later with frames := deltaFrame requestedModel chunk :: later.frames }

def streamChunks (requestedModel : String) (wantsUsage : Bool) (ending : StreamEnd) :
    List ChatCompletionChunk → Relay
  | [] => concluded ending
  | chunk :: rest =>
      (streamChunks requestedModel wantsUsage ending rest).forward requestedModel wantsUsage chunk

def relayLines (requestedModel : String) (wantsUsage : Bool) (lines : List Line) : Relay :=
  let (chunks, ending) := chatStream reader connection lines
  streamChunks requestedModel wantsUsage ending chunks

def relayed (requestedModel : String) (wantsUsage : Bool) (blocks : List Block) : Relay :=
  relayLines reader connection requestedModel wantsUsage (reader.aiterLines (linesOf blocks))

variable {event value choices : Json} {chunk : ChatCompletionChunk}

theorem field_ok {key : String} {result : Json} :
    field value key .null = .ok result ↔ ∃ fields, value = .obj fields ∧ result = member fields key := by
  cases value with
  | obj fields => simp [field, member, eq_comm]
  | _ => simp [field]

@[simp] theorem truthy_orElse {default : Json} (falsy : default.truthy = false) :
    (orElse value default).truthy = value.truthy := by
  unfold orElse
  split
  · rfl
  · next none => simp [falsy, none]

@[simp] theorem fieldsOf_falsy (falsy : value.truthy = false) : fieldsOf value = [] := by
  cases value with
  | obj fields => simpa [Json.truthy, fieldsOf] using falsy
  | _ => rfl

@[simp] theorem entries_falsy (falsy : value.truthy = false) : entries value = [] := by
  cases value with
  | arr items => simpa [Json.truthy, entries] using falsy
  | _ => rfl

/-- What `chunkOf` takes from the choices: the delta and the finish reason. -/
inductive Leads : Json → Dict → Json → Prop
  | none {choices : Json} (falsy : choices.truthy = false) : Leads choices [] .null
  | choice {fields : Dict} {rest : List Json}
      (delta : (member fields "delta").truthy = false ∨ ∃ delta, member fields "delta" = .obj delta) :
      Leads (.arr (.obj fields :: rest)) (fieldsOf (member fields "delta"))
        (member fields "finish_reason")

theorem deltaOf_ok {fields : Dict} {delta : Json} :
    deltaOf (some (.obj fields)) = .ok delta ↔
      delta = orElse (member fields "delta") (.obj []) := by
  simp [deltaOf, field, member, Except.map, eq_comm]

theorem leads_iff {delta : Dict} {finishReason : Json} :
    (∃ choice, firstChoice choices = .ok choice ∧ deltaOf choice = .ok (.obj delta) ∧
      finishOf choice = .ok finishReason) ↔ Leads choices delta finishReason := by
  constructor
  · rintro ⟨choice, led, ofDelta, finished⟩
    unfold firstChoice at led
    split at led
    · next some =>
        cases choices with
        | arr items =>
            cases items with
            | nil => cases some
            | cons item rest =>
                cases led
                obtain ⟨fields, rfl, rfl⟩ := field_ok.mp finished
                have same := deltaOf_ok.mp ofDelta
                unfold orElse at same
                split at same
                · have split : Leads (.arr (.obj fields :: rest)) _ _ :=
                    .choice (.inr ⟨delta, same.symm⟩)
                  rwa [← same] at split
                · next falsy =>
                    have none : (member fields "delta").truthy = false := by simpa using falsy
                    have split : Leads (.arr (.obj fields :: rest)) _ _ := .choice (.inl none)
                    rw [fieldsOf_falsy none] at split
                    cases same
                    exact split
        | str text =>
            simp only [first] at led
            split at led
            · cases led
              cases finished
            · cases led
        | _ => cases led
    · next none =>
        cases led
        cases ofDelta
        cases finished
        exact .none (by simpa using none)
  · rintro (falsy | ⟨shape⟩)
    · exact ⟨none, by simp [firstChoice, falsy], rfl, rfl⟩
    · next fields rest =>
        refine ⟨some (.obj fields), rfl, deltaOf_ok.mpr ?_, rfl⟩
        rcases shape with falsy | ⟨delta, same⟩
        · simp [orElse, falsy]
        · rw [same]
          cases delta with
          | nil => rfl
          | cons entry rest => rfl

theorem chunkOf_ok : chunkOf event = .ok chunk ↔ ∃ fields delta, event = .obj fields ∧
    Leads (member fields "choices") delta chunk.finishReason ∧
      chunk.delta = orElse (member delta "content") (.str "") ∧
      items (orElse (member delta "tool_calls") (.arr [])) = .ok chunk.toolCalls ∧
      chunkUsage (member fields "usage") = .ok chunk.usage := by
  constructor
  · intro read
    obtain ⟨choices, ofChoices, read⟩ := bind_ok.mp read
    obtain ⟨fields, rfl, rfl⟩ := field_ok.mp ofChoices
    obtain ⟨choice, led, read⟩ := bind_ok.mp read
    obtain ⟨delta, ofDelta, read⟩ := bind_ok.mp read
    obtain ⟨content, ofContent, read⟩ := bind_ok.mp read
    obtain ⟨deltaFields, rfl, rfl⟩ := field_ok.mp ofContent
    obtain ⟨finishReason, finished, read⟩ := bind_ok.mp read
    obtain ⟨toolCalls, ofCalls, read⟩ := bind_ok.mp read
    obtain ⟨fields', same, rfl⟩ := field_ok.mp ofCalls
    cases same
    obtain ⟨calls, listed, read⟩ := bind_ok.mp read
    obtain ⟨usage, ofUsage, read⟩ := bind_ok.mp read
    obtain ⟨fields', same, rfl⟩ := field_ok.mp ofUsage
    cases same
    obtain ⟨spent, summed, read⟩ := bind_ok.mp read
    cases read
    exact ⟨fields, deltaFields, rfl, leads_iff.mp ⟨choice, led, ofDelta, finished⟩, rfl, listed, summed⟩
  · rintro ⟨fields, delta, rfl, leads, content, listed, summed⟩
    obtain ⟨choice, led, ofDelta, finished⟩ := leads_iff.mpr leads
    have found (fields : Dict) (key : String) : field (.obj fields) key .null = .ok (member fields key) :=
      rfl
    simp only [chunkOf, found, led, ofDelta, finished, listed, summed, bind, Except.bind, ← content]

/-- `+` takes the two values together. -/
def Adds : Json → Json → Prop
  | .str _, .str _ | .arr _, .arr _ => True
  | left, right => (number left).isSome ∧ (number right).isSome

/-- `tuple` goes through the value. -/
def Iterates : Json → Prop
  | .arr _ | .str _ | .obj _ => True
  | _ => False

theorem adds_iff {left right : Json} : (∃ total, add left right = .ok total) ↔ Adds left right := by
  cases left <;> cases right <;> simp [add, Adds, number]

theorem items_ok : (∃ list, items value = .ok list) ↔ Iterates value := by
  cases value <;> simp [items, Iterates]

def tokens (usage : Dict) : Json × Json :=
  ((usage.lookup "prompt_tokens").getD (.num 0), (usage.lookup "completion_tokens").getD (.num 0))

theorem chunkUsage_ok {usage : Option TokenUsage} : chunkUsage value = .ok usage →
    value.truthy = false ∧ usage = none ∨ ∃ fields total, value = .obj fields ∧
      value.truthy = true ∧ Adds (tokens fields).1 (tokens fields).2 ∧
      usage = some ⟨(tokens fields).1, (tokens fields).2, total⟩ := by
  intro read
  unfold chunkUsage at read
  split at read
  · next some =>
      refine .inr ?_
      cases value with
      | obj fields =>
          unfold usageOf at read
          rw [if_neg (by simp [some])] at read
          cases sum : add (tokens fields).1 (tokens fields).2 with
          | error typeName => simp [tokens] at sum; simp [field, sum, bind, Except.bind, Except.map] at read
          | ok total =>
              have adds := adds_iff.mp ⟨total, sum⟩
              simp only [tokens] at sum
              simp only [field, sum, bind, Except.bind, Except.map] at read
              cases read
              exact ⟨fields, _, rfl, some, adds, rfl⟩
      | null => cases some
      | _ => simp [usageOf, field, some, bind, Except.bind, Except.map] at read
  · next none =>
      cases read
      exact .inl ⟨by simpa using none, rfl⟩

theorem chunkUsage_falsy (falsy : value.truthy = false) : chunkUsage value = .ok none := by
  simp [chunkUsage, falsy]

theorem chunkUsage_obj {usage : Dict} (present : (Json.obj usage).truthy = true)
    (adds : Adds (tokens usage).1 (tokens usage).2) :
    ∃ total, chunkUsage (.obj usage) =
      .ok (some ⟨(tokens usage).1, (tokens usage).2, total⟩) := by
  obtain ⟨total, sum⟩ := adds_iff.mpr adds
  simp only [tokens] at sum
  simp [chunkUsage, usageOf, present, field, sum, bind, Except.bind, Except.map, tokens]

def chunkSays (chunk : ChatCompletionChunk) : List Piece :=
  match chunk.usage with
  | some _ => []
  | none => pieces 0 chunk.delta chunk.toolCalls chunk.finishReason

/-- The payload reaches the client whole: it can be read, the first choice is the
only one that says anything, its fragments stand in an array, and a payload with
usage says nothing else. -/
def Carried (event : Json) : Prop :=
  ∃ fields delta finishReason, event = .obj fields ∧
    Leads (member fields "choices") delta finishReason ∧
    if (member fields "usage").truthy then
      (∃ usage, member fields "usage" = .obj usage ∧ Adds (tokens usage).1 (tokens usage).2) ∧
        ((member delta "tool_calls").truthy = false ∨ Iterates (member delta "tool_calls")) ∧
        said event = []
    else
      ((member delta "tool_calls").truthy = false ∨
          ∃ calls, member delta "tool_calls" = .arr calls) ∧
        choicesSay (entries (member fields "choices")).tail 1 = []

theorem pieces_orElse (content : Json) (calls : List Json) (finishReason : Json) :
    pieces 0 (orElse content (.str "")) calls finishReason = pieces 0 content calls finishReason := by
  unfold pieces
  rw [truthy_orElse rfl]
  by_cases present : content.truthy <;> simp [orElse, present]

theorem said_leads {fields delta : Dict} {finishReason : Json}
    (leads : Leads (member fields "choices") delta finishReason) :
    said (.obj fields) = pieces 0 (member delta "content") (entries (member delta "tool_calls"))
      finishReason ++ choicesSay (entries (member fields "choices")).tail 1 := by
  have same : said (.obj fields) = choicesSay (entries (member fields "choices")) 0 := rfl
  rw [same]
  generalize member fields "choices" = choices at leads
  cases leads with
  | none falsy => rw [entries_falsy falsy]; rfl
  | choice shape => rfl

theorem choicesSay_choice {choices : List Json} {place : Nat} :
    ∀ piece ∈ choicesSay choices place, place ≤ piece.choice := by
  intro piece spoken
  obtain ⟨⟨choice, at_⟩, placed, spoken⟩ := List.mem_flatMap.mp spoken
  have later : place ≤ at_ := List.le_snd_of_mem_zipIdx placed
  have same : piece.choice = at_ := by
    simp only [choiceSays, pieces, finishing, List.mem_append, List.mem_map] at spoken
    rcases spoken with (spoken | ⟨fragment, _, rfl⟩) | spoken
    · split at spoken
      · cases List.mem_singleton.mp spoken
        rfl
      · cases spoken
    · rfl
    · split at spoken
      · cases spoken
      · cases List.mem_singleton.mp spoken
        rfl
  omega

theorem fragments_differ {content finishReason fragment : Json} {calls : List Json}
    {others : List Piece} (later : ∀ piece ∈ others, 1 ≤ piece.choice) :
    pieces 0 content (fragment :: calls) finishReason ≠
      pieces 0 content [] finishReason ++ others := by
  intro same
  have spoken : Piece.toolCall 0 fragment ∈ pieces 0 content [] finishReason ++ others := by
    rw [← same]
    simp [pieces]
  rcases List.mem_append.mp spoken with first | other
  · simp only [pieces, finishing, List.map_nil, List.append_nil, List.mem_append] at first
    rcases first with content | finish
    · split at content <;> simp at content
    · split at finish <;> simp at finish
  · exact absurd (later _ other) (by simp [Piece.choice])

theorem items_cases {calls : List Json} (listed : items (orElse value (.arr [])) = .ok calls) :
    (value.truthy = false ∨ ∃ list, value = .arr list) ∧ calls = entries value ∨
      Iterates value ∧ entries value = [] ∧ ∃ fragment rest, calls = fragment :: rest := by
  by_cases present : value.truthy
  · rw [orElse, if_pos present] at listed
    cases value with
    | arr list =>
        cases listed
        exact .inl ⟨.inr ⟨_, rfl⟩, rfl⟩
    | str text =>
        have some : text.toList ≠ [] := by simpa [Json.truthy, Agents.truthy] using present
        obtain ⟨c, rest, same⟩ := List.exists_cons_of_ne_nil some
        simp only [items, same, List.map_cons] at listed
        cases listed
        exact .inr ⟨trivial, rfl, _, _, rfl⟩
    | obj fields =>
        have some : fields ≠ [] := by simpa [Json.truthy] using present
        obtain ⟨entry, rest, rfl⟩ := List.exists_cons_of_ne_nil some
        cases listed
        exact .inr ⟨trivial, rfl, _, _, rfl⟩
    | _ => cases listed
  · have falsy : value.truthy = false := by simpa using present
    rw [orElse, if_neg present] at listed
    cases listed
    exact .inl ⟨.inl falsy, (entries_falsy falsy).symm⟩

theorem items_of_array (shape : value.truthy = false ∨ ∃ list, value = .arr list) :
    items (orElse value (.arr [])) = .ok (entries value) := by
  rcases shape with falsy | ⟨list, rfl⟩
  · simp [orElse, falsy, items]
  · cases list with
    | nil => rfl
    | cons item rest => rfl

theorem items_of_iterates (shape : value.truthy = false ∨ Iterates value) :
    ∃ calls, items (orElse value (.arr [])) = .ok calls := by
  rcases shape with falsy | iterates
  · exact ⟨_, items_of_array (.inl falsy)⟩
  · unfold orElse
    split
    · exact items_ok.mpr iterates
    · exact ⟨[], rfl⟩

theorem carried_iff :
    (∃ chunk, chunkOf event = .ok chunk ∧ chunkSays chunk = said event) ↔ Carried event := by
  constructor
  · rintro ⟨chunk, read, same⟩
    obtain ⟨fields, delta, rfl, leads, content, listed, summed⟩ := chunkOf_ok.mp read
    refine ⟨fields, delta, chunk.finishReason, rfl, leads, ?_⟩
    rcases chunkUsage_ok summed with ⟨falsy, none⟩ | ⟨usage, total, ofUsage, some, adds, spent⟩
    · rw [if_neg (by simp [falsy])]
      rw [chunkSays, none, said_leads leads, content, pieces_orElse] at same
      rcases items_cases listed with ⟨shape, calls⟩ | ⟨_, none, fragment, rest, calls⟩
      · rw [calls] at same
        exact ⟨shape, (List.append_right_eq_self.mp same.symm)⟩
      · rw [calls, none] at same
        exact absurd same (fragments_differ choicesSay_choice)
    · rw [if_pos some]
      refine ⟨⟨usage, ofUsage, adds⟩, ?_, ?_⟩
      · rcases items_cases listed with ⟨falsy | ⟨list, same⟩, _⟩ | ⟨iterates, _⟩
        · exact .inl falsy
        · exact .inr (same ▸ trivial)
        · exact .inr iterates
      · rw [← same, chunkSays, spent]
  · rintro ⟨fields, delta, finishReason, rfl, leads, whole⟩
    split at whole
    · next some =>
        obtain ⟨⟨usage, ofUsage, adds⟩, iterates, silent⟩ := whole
        obtain ⟨calls, listed⟩ := items_of_iterates iterates
        rw [ofUsage] at some
        obtain ⟨total, summed⟩ := chunkUsage_obj some adds
        rw [← ofUsage] at summed
        refine ⟨⟨orElse (member delta "content") (.str ""), finishReason, calls, _⟩,
          chunkOf_ok.mpr ⟨fields, delta, rfl, leads, rfl, listed, summed⟩, silent.symm⟩
    · next absent =>
        obtain ⟨shape, silent⟩ := whole
        have falsy : (member fields "usage").truthy = false := by simpa using absent
        refine ⟨⟨orElse (member delta "content") (.str ""), finishReason, _, none⟩,
          chunkOf_ok.mpr ⟨fields, delta, rfl, leads, rfl, items_of_array shape,
            chunkUsage_falsy falsy⟩, ?_⟩
        rw [said_leads leads, silent, List.append_nil]
        exact pieces_orElse ..

theorem spent_chunk (read : chunkOf event = .ok chunk) :
    (chunk.usage.map fun usage => (usage.promptTokens, usage.completionTokens)).toList =
      spent event := by
  obtain ⟨fields, delta, rfl, leads, content, listed, summed⟩ := chunkOf_ok.mp read
  rcases chunkUsage_ok summed with ⟨falsy, none⟩ | ⟨usage, total, ofUsage, some, adds, spends⟩
  · have empty : fieldsOf (member (fieldsOf (.obj fields)) "usage") = [] := fieldsOf_falsy falsy
    rw [spent, empty, none]
    rfl
  · rw [spends]
    cases usage with
    | nil =>
        rw [ofUsage] at some
        cases some
    | cons entry rest => simp [spent, fieldsOf, ofUsage, tokens]

section Turns

variable {reader connection} {requestedModel : String} {wantsUsage : Bool}

theorem told_deltaFrame : (deltaFrame requestedModel chunk).told =
    pieces 0 chunk.delta chunk.toolCalls chunk.finishReason := by
  obtain ⟨content, finishReason, calls, usage⟩ := chunk
  have frame : (deltaFrame requestedModel ⟨content, finishReason, calls, usage⟩).told =
      pieces 0
        (member ((if content.truthy then [("content", content)] else []) ++
          if calls.isEmpty then [] else [("tool_calls", .arr calls)]) "content")
        (entries (member ((if content.truthy then [("content", content)] else []) ++
          if calls.isEmpty then [] else [("tool_calls", .arr calls)]) "tool_calls"))
        finishReason := by
    simp [deltaFrame, sse, Frame.told, said, choicesSay, choiceSays, member, fieldsOf, entries,
      List.lookup_cons]
  rw [frame]
  have absent : Json.null.truthy = false := rfl
  cases present : content.truthy <;> cases calls <;>
    simp [pieces, member, entries, List.lookup_cons, present, absent]

theorem told_usageFrame (usage : TokenUsage) : (usageFrame requestedModel usage).told = [] := by
  simp [usageFrame, sse, Frame.told, said, choicesSay, member, fieldsOf, entries, List.lookup_cons]

theorem told_errorFrame (message : String) : (errorFrame message).told = [] := by
  simp [errorFrame, Frame.told, said, choicesSay, member, fieldsOf, entries, List.lookup_cons]

/-- The client reads these pieces and then `[DONE]`, these tokens are taken over, and
nothing leaves the generator. -/
structure Faithful (relay : Relay) (pieces : List Piece) (spent : List (Json × Json)) : Prop where
  said : relay.said = pieces
  assigned : relay.assigned = spent
  unraised : relay.raised = none
  ends : relay.frames.getLast? = some .done

theorem getLast_done {frame : Frame} {frames : List Frame} (other : frame ≠ .done) :
    (frame :: frames).getLast? = some .done ↔ frames.getLast? = some .done := by
  cases frames with
  | nil => simpa using other
  | cons next rest => simp [List.getLast?_cons_cons]

theorem forward_said (later : Relay) : (later.forward requestedModel wantsUsage chunk).said =
    chunkSays chunk ++ later.said := by
  unfold Relay.forward chunkSays Relay.said
  cases chunk.usage with
  | none => simp [told_deltaFrame]
  | some usage => cases wantsUsage <;> simp [told_usageFrame]

theorem forward_assigned (later : Relay) :
    (later.forward requestedModel wantsUsage chunk).assigned =
      (chunk.usage.map fun usage => (usage.promptTokens, usage.completionTokens)).toList ++
        later.assigned := by
  unfold Relay.forward
  cases chunk.usage <;> rfl

theorem forward_raised (later : Relay) :
    (later.forward requestedModel wantsUsage chunk).raised = later.raised := by
  unfold Relay.forward
  cases chunk.usage <;> rfl

theorem forward_ends (later : Relay) :
    (later.forward requestedModel wantsUsage chunk).frames.getLast? = some .done ↔
      later.frames.getLast? = some .done := by
  unfold Relay.forward
  cases chunk.usage with
  | none => exact getLast_done nofun
  | some usage =>
      cases wantsUsage with
      | false => rfl
      | true => exact getLast_done nofun

theorem faithful_forward {later : Relay} {told told' : List Piece} {spends spends' : List (Json × Json)}
    (same : chunkSays chunk = told)
    (tokens : (chunk.usage.map fun usage =>
      (usage.promptTokens, usage.completionTokens)).toList = spends) :
    Faithful (later.forward requestedModel wantsUsage chunk) (told ++ told') (spends ++ spends') ↔
      Faithful later told' spends' := by
  subst same tokens
  constructor
  · rintro ⟨said, assigned, unraised, ends⟩
    exact ⟨List.append_cancel_left ((forward_said later).symm.trans said),
      List.append_cancel_left ((forward_assigned later).symm.trans assigned),
      (forward_raised later).symm.trans unraised, (forward_ends later).mp ends⟩
  · rintro ⟨said, assigned, unraised, ends⟩
    exact ⟨by rw [forward_said, said], by rw [forward_assigned, assigned],
      (forward_raised later).trans unraised, (forward_ends later).mpr ends⟩

theorem faithful_concluded : Faithful (concluded connection.ends) [] [] := by
  cases connection with
  | closed => exact ⟨rfl, rfl, rfl, rfl⟩
  | broken typeName =>
      refine ⟨?_, rfl, rfl, rfl⟩
      have silent := told_errorFrame ("Inference stream failed: " ++ typeName)
      simp only [Relay.said, Connection.ends, concluded, List.flatMap_cons, silent,
        List.flatMap_nil, List.append_nil]
      rfl

variable {line data : Line} {rest lines : List Line}

theorem relayLines_skip (silent : ∀ line ∈ lines, spacedData line = none) :
    relayLines reader connection requestedModel wantsUsage (lines ++ rest) =
      relayLines reader connection requestedModel wantsUsage rest := by
  induction lines with
  | nil => rfl
  | cons line lines ih =>
      rw [← ih fun other member => silent other (List.mem_cons_of_mem _ member)]
      simp only [relayLines, List.cons_append, chatStream, silent line List.mem_cons_self]

theorem relayLines_done (spaced : spacedData line = some data) (finished : trim isSpace data = done) :
    relayLines reader connection requestedModel wantsUsage (line :: rest) =
      concluded .completed := by
  simp only [relayLines, chatStream, spaced, finished, if_true, streamChunks]

theorem relayLines_malformed (spaced : spacedData line = some data)
    (goes : trim isSpace data ≠ done) (malformed : reader.loads (trim isSpace data) = none) :
    relayLines reader connection requestedModel wantsUsage (line :: rest) =
      relayLines reader connection requestedModel wantsUsage rest := by
  simp only [relayLines, chatStream, spaced, if_neg goes, malformed]

theorem relayLines_raised {typeName : String} (spaced : spacedData line = some data)
    (goes : trim isSpace data ≠ done) (loaded : reader.loads (trim isSpace data) = some event)
    (raised : chunkOf event = .error typeName) :
    relayLines reader connection requestedModel wantsUsage (line :: rest) =
      concluded (.raised typeName) := by
  simp only [relayLines, chatStream, spaced, if_neg goes, loaded, raised, streamChunks]

theorem relayLines_chunk (spaced : spacedData line = some data)
    (goes : trim isSpace data ≠ done) (loaded : reader.loads (trim isSpace data) = some event)
    (read : chunkOf event = .ok chunk) :
    relayLines reader connection requestedModel wantsUsage (line :: rest) =
      (relayLines reader connection requestedModel wantsUsage rest).forward
        requestedModel wantsUsage chunk := by
  simp only [relayLines, chatStream, spaced, if_neg goes, loaded, read, streamChunks]

variable {block : Block} {blocks : List Block}

def payloadOf (reader : Reader) (block : Block) : Option Json :=
  (eventData block).bind fun data => reader.loads (trim isSpace data)

def Finishes (block : Block) : Prop := (eventData block).map (trim isSpace) = some done

instance (block : Block) : Decidable (Finishes block) :=
  inferInstanceAs (Decidable ((eventData block).map (trim isSpace) = some done))

def blockSays (reader : Reader) (block : Block) : List Piece :=
  (payloadOf reader block).elim [] said

def blockSpent (reader : Reader) (block : Block) : List (Json × Json) :=
  (payloadOf reader block).elim [] spent

/-- The client of the engine reads data in the frame: a line that it is given starts
with `data: `. -/
def Read (reader : Reader) (block : Block) : Prop :=
  ∃ line ∈ reader.aiterLines block, (spacedData line).isSome

/-- Where data are read, they stand on one line, and no line of the frame is broken. -/
def Plain (reader : Reader) (block : Block) : Prop :=
  Read reader block → OneLine block ∧ ∀ line ∈ block, ∀ c ∈ line, reader.breaks c = false

def Kept (reader : Reader) (block : Block) : Prop :=
  ∀ payload, payloadOf reader block = some payload →
    (Read reader block → Carried payload) ∧
      (¬ Read reader block → said payload = [] ∧ spent payload = [])

theorem aiterLines_cons : reader.aiterLines (linesOf (block :: blocks)) =
    reader.aiterLines block ++ [] :: reader.aiterLines (linesOf blocks) := by
  simp [Reader.aiterLines, linesOf]

theorem aiterLines_unbroken (unbroken : ∀ line ∈ block, ∀ c ∈ line, reader.breaks c = false) :
    reader.aiterLines block = block := by
  have single : ∀ line ∈ block, line.splitOnP reader.breaks = [line] :=
    fun line member => List.splitOnP_eq_singleton (unbroken line member)
  rw [Reader.aiterLines, List.flatMap_congr single, List.flatMap_singleton']

theorem relayed_unread (unread : ¬ Read reader block) :
    relayed reader connection requestedModel wantsUsage (block :: blocks) =
      relayed reader connection requestedModel wantsUsage blocks := by
  have silent : ∀ line ∈ reader.aiterLines block, spacedData line = none := by
    intro line member
    cases spaced : spacedData line with
    | none => rfl
    | some value => exact absurd ⟨line, member, by simp [spaced]⟩ unread
  have blank : ∀ line ∈ ([[]] : List Line), spacedData line = none := by simp [spacedData]
  rw [relayed, aiterLines_cons, relayLines_skip silent]
  exact relayLines_skip blank

variable (connection requestedModel wantsUsage blocks) in
theorem relayed_read (plain : Plain reader block) (read : Read reader block) :
    ∃ line data, spacedData line = some data ∧ eventData block = some data ∧
      ∃ rest, relayed reader connection requestedModel wantsUsage (block :: blocks) =
          relayLines reader connection requestedModel wantsUsage (line :: rest) ∧
        relayLines reader connection requestedModel wantsUsage rest =
          relayed reader connection requestedModel wantsUsage blocks := by
  have unspaced : ∀ line : Line, dataOf line = none → spacedData line = none := by
    intro line silent
    cases spaced : spacedData line with
    | none => rfl
    | some value => cases (dataOf_spaced spaced).symm.trans silent
  obtain ⟨one, unbroken⟩ := plain read
  obtain ⟨line, member, isSome⟩ := read
  rw [aiterLines_unbroken unbroken] at member
  obtain ⟨data, spaced⟩ := Option.isSome_iff_exists.mp isSome
  rcases one.cases with silent | ⟨before, only, after, value, rfl, spoken, others⟩
  · rw [unspaced line (silent line member)] at spaced
    cases spaced
  · have same : line = only := by
      by_contra other
      have among : line ∈ before ++ after := by
        rcases List.mem_append.mp member with early | late
        · exact List.mem_append_left _ early
        · exact List.mem_append_right _ ((List.mem_cons.mp late).resolve_left other)
      rw [unspaced line (others line among)] at spaced
      cases spaced
    subst same
    have whole : data = value := Option.some.inj ((dataOf_spaced spaced).symm.trans spoken)
    subst whole
    have first : ∀ line ∈ before, spacedData line = none :=
      fun other member => unspaced other (others other (List.mem_append_left _ member))
    have last : ∀ line ∈ after ++ [[]], spacedData line = none := by
      intro other member
      rcases List.mem_append.mp member with member | blank
      · exact unspaced other (others other (List.mem_append_right _ member))
      · rw [List.mem_singleton.mp blank]
        rfl
    refine ⟨line, data, spaced, eventData_one others spoken,
      (after ++ [[]]) ++ reader.aiterLines (linesOf blocks), ?_, relayLines_skip last⟩
    rw [relayed, aiterLines_cons, aiterLines_unbroken unbroken, List.append_assoc,
      relayLines_skip first]
    simp

theorem relayed_plain (plain : Plain reader block) (goes : ¬ Finishes block) :
    (relayed reader connection requestedModel wantsUsage (block :: blocks) =
        relayed reader connection requestedModel wantsUsage blocks ∧
      ∀ payload, payloadOf reader block = some payload → ¬ Read reader block) ∨
    ∃ payload, payloadOf reader block = some payload ∧ Read reader block ∧
      ((∃ typeName, chunkOf payload = .error typeName ∧
          relayed reader connection requestedModel wantsUsage (block :: blocks) =
            concluded (.raised typeName)) ∨
        ∃ chunk, chunkOf payload = .ok chunk ∧
          relayed reader connection requestedModel wantsUsage (block :: blocks) =
            (relayed reader connection requestedModel wantsUsage blocks).forward
              requestedModel wantsUsage chunk) := by
  by_cases read : Read reader block
  · obtain ⟨line, data, spaced, event, rest, turn, later⟩ :=
      relayed_read connection requestedModel wantsUsage blocks plain read
    have goesOn : trim isSpace data ≠ done :=
      fun finished => goes (by rw [Finishes, event, Option.map_some, finished])
    have payload : payloadOf reader block = reader.loads (trim isSpace data) := by
      rw [payloadOf, event, Option.bind_some]
    rw [payload, turn]
    cases loaded : reader.loads (trim isSpace data) with
    | none => exact .inl ⟨(relayLines_malformed spaced goesOn loaded).trans later, nofun⟩
    | some value =>
        refine .inr ⟨value, rfl, read, ?_⟩
        cases chunked : chunkOf value with
        | error typeName =>
            exact .inl ⟨typeName, rfl, relayLines_raised spaced goesOn loaded chunked⟩
        | ok chunk =>
            exact .inr ⟨chunk, rfl, by rw [relayLines_chunk spaced goesOn loaded chunked, later]⟩
  · exact .inl ⟨relayed_unread read, fun _ _ => read⟩

theorem faithful_cons {told : List Piece} {spends : List (Json × Json)}
    (plain : Plain reader block) (goes : ¬ Finishes block) (kept : Kept reader block) :
    Faithful (relayed reader connection requestedModel wantsUsage (block :: blocks))
        (blockSays reader block ++ told) (blockSpent reader block ++ spends) ↔
      Faithful (relayed reader connection requestedModel wantsUsage blocks) told spends := by
  rcases relayed_plain plain goes with ⟨same, unread⟩ | ⟨payload, there, spaced, turn⟩
  · rw [same]
    cases there : payloadOf reader block with
    | none => simp [blockSays, blockSpent, there]
    | some payload =>
        obtain ⟨silent, free⟩ := (kept payload there).2 (unread payload there)
        simp [blockSays, blockSpent, there, silent, free]
  · obtain ⟨chunk, read, same⟩ := carried_iff.mpr ((kept payload there).1 spaced)
    rcases turn with ⟨typeName, raised, _⟩ | ⟨other, read', forwarded⟩
    · cases read.symm.trans raised
    · cases read.symm.trans read'
      rw [forwarded, blockSays, blockSpent, there]
      exact faithful_forward same (spent_chunk read)

theorem kept_of_faithful (plain : Plain reader block) (goes : ¬ Finishes block)
    (rest : Faithful (relayed reader connection requestedModel wantsUsage blocks) [] [])
    (faithful : Faithful (relayed reader connection requestedModel wantsUsage (block :: blocks))
      (blockSays reader block) (blockSpent reader block)) : Kept reader block := by
  intro payload there
  rw [blockSays, blockSpent, there] at faithful
  rcases relayed_plain plain goes with ⟨same, unread⟩ | ⟨payload', there', spaced, turn⟩
  · rw [same] at faithful
    exact ⟨fun spaced => absurd spaced (unread payload there),
      fun _ => ⟨faithful.said.symm.trans rest.said, faithful.assigned.symm.trans rest.assigned⟩⟩
  · cases there.symm.trans there'
    refine ⟨fun _ => carried_iff.mp ?_, fun unspaced => absurd spaced unspaced⟩
    rcases turn with ⟨typeName, _, raised⟩ | ⟨chunk, read, forwarded⟩
    · rw [raised] at faithful
      cases faithful.unraised
    · refine ⟨chunk, read, ?_⟩
      have told := faithful.said
      rw [forwarded, forward_said, rest.said, List.append_nil] at told
      exact told

end Turns

/-- The frames of a stream, and the `[DONE]` behind them where the engine sends it. -/
structure Upstream where
  frames : List Block
  closing : Option Block
  goes : ∀ block ∈ frames, ¬ Finishes block
  finishes : ∀ block ∈ closing, Finishes block

variable (requestedModel : String) (wantsUsage : Bool)

/-- At every moment the client has read what the engine has said, `[DONE]` ends the
stream, whatever follows the frames, and the tokens taken over are those sent. -/
def Upstream.Relayed (stream : Upstream) : Prop :=
  ∀ part, part <+: stream.frames →
    Faithful
      (relayed reader connection requestedModel wantsUsage (part ++ stream.closing.toList))
      (part.flatMap (blockSays reader)) (part.flatMap (blockSpent reader))

def Upstream.Plain (stream : Upstream) : Prop :=
  ∀ block ∈ stream.frames ++ stream.closing.toList, StreamRelays.Plain reader block

def Upstream.Kept (stream : Upstream) : Prop :=
  ∀ block ∈ stream.frames, StreamRelays.Kept reader block

theorem faithful_closing {stream : Upstream} (plain : stream.Plain reader) :
    Faithful (relayed reader connection requestedModel wantsUsage stream.closing.toList) [] [] := by
  have nothing : Faithful (relayed reader connection requestedModel wantsUsage []) [] [] :=
    faithful_concluded
  cases closing : stream.closing with
  | none => exact nothing
  | some block =>
      rw [Option.toList_some]
      by_cases read : Read reader block
      · have plain : StreamRelays.Plain reader block := plain block (by simp [closing])
        obtain ⟨line, data, spaced, event, rest, turn, later⟩ :=
          relayed_read connection requestedModel wantsUsage [] plain read
        have finished : trim isSpace data = done := by
          have finishes := stream.finishes block closing
          rw [Finishes, event, Option.map_some] at finishes
          exact Option.some.inj finishes
        rw [turn, relayLines_done spaced finished]
        exact ⟨rfl, rfl, rfl, rfl⟩
      · rw [relayed_unread read]
        exact nothing

theorem faithful_append {part blocks : List Block} {told : List Piece} {spends : List (Json × Json)}
    (plain : ∀ block ∈ part, Plain reader block) (goes : ∀ block ∈ part, ¬ Finishes block)
    (kept : ∀ block ∈ part, Kept reader block) :
    Faithful (relayed reader connection requestedModel wantsUsage (part ++ blocks))
        (part.flatMap (blockSays reader) ++ told) (part.flatMap (blockSpent reader) ++ spends) ↔
      Faithful (relayed reader connection requestedModel wantsUsage blocks) told spends := by
  induction part with
  | nil => rfl
  | cons block part ih =>
      have first := List.mem_cons_self (a := block) (l := part)
      rw [← ih (fun other member => plain other (List.mem_cons_of_mem _ member))
        (fun other member => goes other (List.mem_cons_of_mem _ member))
        (fun other member => kept other (List.mem_cons_of_mem _ member))]
      simp only [List.flatMap_cons, List.append_assoc, List.cons_append]
      exact faithful_cons (plain block first) (goes block first) (kept block first)

theorem relayed_iff {stream : Upstream} (plain : stream.Plain reader) :
    stream.Relayed reader connection requestedModel wantsUsage ↔ stream.Kept reader := by
  have closing := faithful_closing reader connection requestedModel wantsUsage plain
  have plainFrames : ∀ block ∈ stream.frames, Plain reader block :=
    fun block member => plain block (List.mem_append_left _ member)
  constructor
  · intro relayed
    have parts : ∀ part : List Block, part <+: stream.frames →
        ∀ block ∈ part, Kept reader block := by
      intro part
      induction part using List.reverseRecOn with
      | nil => exact fun _ _ member => nomatch member
      | append_singleton part last ih =>
          intro begins block member
          have shorter : part <+: stream.frames := (List.prefix_append part [last]).trans begins
          have among : ∀ block ∈ part ++ [last], block ∈ stream.frames :=
            fun block member => begins.subset member
          have early : ∀ block ∈ part, block ∈ stream.frames :=
            fun block member => among block (List.mem_append_left _ member)
          rcases List.mem_append.mp member with before | final
          · exact ih shorter block before
          · cases List.mem_singleton.mp final
            have here := among last (List.mem_append_right _ (List.mem_singleton_self _))
            have told := relayed (part ++ [last]) begins
            rw [List.append_assoc, List.flatMap_append, List.flatMap_append] at told
            have single := (faithful_append reader connection requestedModel wantsUsage
              (fun block member => plainFrames block (early block member))
              (fun block member => stream.goes block (early block member))
              (ih shorter)).mp told
            simp only [List.flatMap_cons, List.flatMap_nil, List.append_nil,
              List.singleton_append] at single
            exact kept_of_faithful (plainFrames last here) (stream.goes last here) closing single
    exact parts stream.frames (List.prefix_refl _)
  · intro kept part begins
    have among : ∀ block ∈ part, block ∈ stream.frames := fun block member => begins.subset member
    have told := (faithful_append reader connection requestedModel wantsUsage
      (fun block member => plainFrames block (among block member))
      (fun block member => stream.goes block (among block member))
      (fun block member => kept block (among block member))).mpr closing
    simpa only [List.append_nil] using told

/-- `{"choices":[{"delta":{"content":"a"}}]}`, with usage or without. -/
def greeting (usage : Dict) : Json :=
  .obj (("choices", .arr [.obj [("delta", .obj [("content", .str "a")])]]) :: usage)

def plainText : Line := "\x7b\"choices\":[\x7b\"delta\":\x7b\"content\":\"a\"\x7d\x7d]\x7d".toList

def meteredText : Line :=
  "\x7b\"choices\":[\x7b\"delta\":\x7b\"content\":\"a\"\x7d\x7d],\"usage\":\x7b\"prompt_tokens\":1\x7d\x7d".toList

/-- `json.loads`, on the texts of the frames. -/
def smallReader : Reader where
  loads text :=
    if text = plainText then some (greeting [])
    else if text = meteredText then some (greeting [("usage", .obj [("prompt_tokens", .num 1)])])
    else if text = ['5'] then some (.num 5)
    else none
  breaks _ := false

def oneFrame (line : Line) (goes : ¬ Finishes [line]) : Upstream where
  frames := [[line]]
  closing := some ["data: [DONE]".toList]
  goes := by simpa using goes
  finishes := by
    intro block same
    cases same
    decide

end AiPlatform.StreamRelays
