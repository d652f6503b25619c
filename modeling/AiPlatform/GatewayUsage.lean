import AiPlatform.ForwardedIdentity
import AiPlatform.Gateway

/-!
The calls of `GatewayService` in `app/services/gateway.py`, with what they write into the
usage records and count. An engine answers a call, or raises `ProviderError`, or raises
something else, as it does where a reply does not have the expected form. The usage
session commits, and the background task of a streamed response runs when the response
has ended, however it has.
-/

namespace AiPlatform.Metering

open Agents (Dict Json truthy)
open Identity (attributed)
open Serving (Catalogue ResolvedTarget Settings)

inductive Provided (α : Type)
  | answered (value : α)
  -- `ProviderError`
  | failed (message : String)
  | raised (typeName : String)

/-- A number, as `+` and the counters take it. -/
def number : Json → Option Rat
  | .num value => some value
  | .bool value => some (if value then 1 else 0)
  | _ => none

/-- `left + right` -/
def add : Json → Json → Except String Json
  | .str left, .str right => .ok (.str (left ++ right))
  | .arr left, .arr right => .ok (.arr (left ++ right))
  | left, right =>
      match number left, number right with
      | some first, some second => .ok (.num (first + second))
      | _, _ => .error "TypeError"

/-- `value.get(key, default)` -/
def field (value : Json) (key : String) (default : Json) : Except String Json :=
  match value with
  | .obj fields => .ok ((fields.lookup key).getD default)
  | _ => .error "AttributeError"

/-- `value or default` -/
def orElse (value default : Json) : Json := if value.truthy then value else default

/-- `value[0]` -/
def first : Json → Except String Json
  | .arr (item :: _) => .ok item
  | .str text =>
      match text.toList with
      | c :: _ => .ok (.str (String.singleton c))
      | [] => .error "IndexError"
  | .arr [] => .error "IndexError"
  | .obj _ => .error "KeyError"
  | _ => .error "TypeError"

def items : Json → Except String (List Json)
  | .arr items => .ok items
  | .str text => .ok (text.toList.map fun c => .str (String.singleton c))
  | .obj fields => .ok (fields.map fun entry => .str entry.1)
  | _ => .error "TypeError"

structure TokenUsage where
  promptTokens : Json
  completionTokens : Json
  totalTokens : Json

def TokenUsage.zero : TokenUsage := ⟨.num 0, .num 0, .num 0⟩

/-- `_usage`; the sum is made even where the total is given. -/
def usageOf (payload : Json) : Except String TokenUsage :=
  if !payload.truthy then .ok .zero
  else do
    let promptTokens ← field payload "prompt_tokens" (.num 0)
    let completionTokens ← field payload "completion_tokens" (.num 0)
    let total ← add promptTokens completionTokens
    .ok ⟨promptTokens, completionTokens, ← field payload "total_tokens" total⟩

structure Completion where
  id : Json
  model : Json
  content : Json
  finishReason : Json
  toolCalls : List Json
  usage : TokenUsage

/-- The completion that `VLLMProvider.chat` reads from the body. -/
def completionOf (model : String) (body : Json) : Except String Completion := do
  let choices ← field body "choices" .null
  let choice ← first (orElse choices (.arr [.obj []]))
  let message := orElse (← field choice "message" .null) (.obj [])
  let id ← field body "id" (.str "")
  let model ← field body "model" (.str model)
  let content ← field message "content" .null
  let finishReason ← field choice "finish_reason" .null
  let toolCalls ← items (orElse (← field message "tool_calls" .null) (.arr []))
  let usage ← usageOf (← field body "usage" .null)
  .ok ⟨id, model, orElse content (.str ""), finishReason, toolCalls, usage⟩

inductive HttpReply
  -- `httpx.HTTPError`
  | unreachable (typeName : String)
  | response (status : Nat) (body : Option Json)

/-- The reply of a runtime, with `_raise_for_status`; `describe` tells an error's detail. -/
def received {α : Type} (describe : Option Json → String) (parse : Json → Except String α) :
    HttpReply → Provided α
  | .unreachable typeName => .failed ("Inference runtime unreachable: " ++ typeName)
  | .response status body =>
      if 400 ≤ status then
        match body with
        | some (.obj _) | none =>
            .failed (s!"Inference runtime returned {status}: " ++ describe body)
        | some _ => .raised "AttributeError"
      else
        match body with
        | none => .raised "JSONDecodeError"
        | some value =>
            match parse value with
            | .ok result => .answered result
            | .error typeName => .raised typeName

structure EmbeddingResult where
  vectors : List (List Rat)
  usage : TokenUsage

/-- A duration that is no finite number is `none`. -/
structure Transcript where
  text : Json
  language : Json
  durationSeconds : Option Rat
  segments : List (Rat × Rat × Json)

structure SynthesizedSpeech where
  audio : List UInt8
  audioFormat : String

structure CallContext extends Identity.GatewayContext where
  apiKeyId : Option Nat
  userId : Option Nat
  started : Rat

def CallContext.attribute (context : CallContext) (body : Dict) : CallContext :=
  { context with toGatewayContext := attributed context.toGatewayContext body }

structure UsageRecord where
  apiKeyId : Option Nat
  userId : Option Nat
  endpoint : String
  requestedModel : String
  model : String
  deploymentId : Nat
  promptTokens : Json
  completionTokens : Json
  statusCode : Nat
  streamed : Bool
  clientDisconnected : Bool
  endUser : Option String
  endUserTrusted : Bool

/-- The labels of `GATEWAY_REQUESTS`. -/
structure RequestLabels where
  model : String
  surface : String
  outcome : String

/-- The usage records and the metrics: an entry for each increment or observation. -/
structure Ledger where
  records : List UsageRecord
  requests : List RequestLabels
  tokens : List (String × String × Rat)
  firstTokens : List (String × Rat)

def statusClass (statusCode : Nat) : String :=
  let hundreds := statusCode / 100
  s!"{hundreds}xx"

/-- `if amount: GATEWAY_TOKENS.labels(model, kind).inc(amount)`; a counter takes no
negative amount. -/
def Ledger.countTokens (ledger : Ledger) (model kind : String) (amount : Json) :
    Except Refusal Ledger :=
  if !amount.truthy then .ok ledger
  else
    match number amount with
    | none => .error (.raised "TypeError")
    | some value =>
        if value < 0 then .error (.raised "ValueError")
        else .ok { ledger with tokens := ledger.tokens ++ [(model, kind, value)] }

def Ledger.countRequest (ledger : Ledger) (labels : RequestLabels) : Ledger :=
  { ledger with requests := ledger.requests ++ [labels] }

/-- The arguments of `_record`. -/
structure Usage where
  streamed : Bool
  promptTokens : Json := .num 0
  completionTokens : Json := .num 0
  statusCode : Nat := 200
  clientDisconnected : Bool := false
  endpoint : String := "chat.completions"

def Usage.row (usage : Usage) (context : CallContext) (target : ResolvedTarget) : UsageRecord where
  apiKeyId := context.apiKeyId
  userId := context.userId
  endpoint := usage.endpoint
  requestedModel := target.requestedModel
  model := target.model.name
  deploymentId := target.deployment.id
  promptTokens := usage.promptTokens
  completionTokens := usage.completionTokens
  statusCode := usage.statusCode
  streamed := usage.streamed
  clientDisconnected := usage.clientDisconnected
  endUser := context.endUser
  endUserTrusted := context.endUserTrusted

def Usage.labels (usage : Usage) (target : ResolvedTarget) : RequestLabels :=
  ⟨target.model.name, usage.endpoint, statusClass usage.statusCode⟩

/-- What a call returns or raises, with the ledger after it. -/
abbrev Metered (α : Type) := Except Refusal α × Ledger

def record (context : CallContext) (target : ResolvedTarget) (usage : Usage) (ledger : Ledger) :
    Metered Unit :=
  let counted := ledger.countRequest (usage.labels target)
  match counted.countTokens target.model.name "prompt" usage.promptTokens with
  | .error refusal => (.error refusal, counted)
  | .ok prompted =>
      match prompted.countTokens target.model.name "completion" usage.completionTokens with
      | .error refusal => (.error refusal, prompted)
      | .ok metered =>
          (.ok (), { metered with records := metered.records ++ [usage.row context target] })

def recorded {α : Type} (context : CallContext) (target : ResolvedTarget) (usage : Usage)
    (ledger : Ledger) (rest : Ledger → Metered α) : Metered α :=
  match record context target usage ledger with
  | (.error refusal, after) => (.error refusal, after)
  | (.ok (), after) => rest after

/-- `except ProviderError`: the failure is recorded and raised as another error. -/
def failing {α : Type} (context : CallContext) (target : ResolvedTarget) (endpoint message : String)
    (ledger : Ledger) : Metered α :=
  recorded context target { streamed := false, statusCode := 502, endpoint := endpoint } ledger
    fun after => (.error (.app ⟨.dependencyUnavailable, message, []⟩), after)

structure ChatMessage where
  role : Json
  content : Json
  name : Json
  toolCallId : Json
  toolCalls : List Json

def partText : Json → Option Json
  | .obj fields => some ((fields.lookup "text").getD (.str ""))
  | _ => none

def text : Json → Except String String
  | .str value => .ok value
  | _ => .error "TypeError"

/-- `" ".join(part.get("text", "") for part in content if isinstance(part, dict))` -/
def joinedParts (parts : List Json) : Except String Json := do
  let texts ← (parts.filterMap partText).mapM text
  .ok (.str (String.intercalate " " texts))

def messageOf (raw : Json) : Except String ChatMessage := do
  let content ← field raw "content" .null
  let content ← match content with
    | .arr parts => joinedParts parts
    | _ => .ok content
  let role ← field raw "role" (.str "user")
  let name ← field raw "name" .null
  let toolCallId ← field raw "tool_call_id" .null
  let toolCalls ← items (orElse (← field raw "tool_calls" .null) (.arr []))
  .ok ⟨role, content, name, toolCallId, toolCalls⟩

/-- `self._messages(body.get("messages") or [])` -/
def messagesOf (body : Dict) : Except String (List ChatMessage) := do
  let payload ← items (orElse ((body.get "messages").getD .null) (.arr []))
  payload.mapM messageOf

/-- `body.get("model", "")`; no model has a name that is not text. -/
def requestedModel (body : Dict) : String :=
  match body.get "model" with
  | some (.str name) => name
  | _ => ""

section Calls

variable (settings : Settings) (catalogue : Catalogue)

structure ChatResponse where
  model : String
  completion : Completion

def chatCompletion (body : Dict) (provided : List ChatMessage → Provided Completion)
    (context : CallContext) (ledger : Ledger) : Metered ChatResponse :=
  let context := context.attribute body
  match catalogue.resolve settings (requestedModel body) with
  | .error error => (.error (.app error), ledger)
  | .ok target =>
      match messagesOf body with
      | .error typeName => (.error (.raised typeName), ledger)
      | .ok [] =>
          (.error (.app (validationError "'messages' must contain at least one message." [])), ledger)
      | .ok messages =>
          match provided messages with
          | .raised typeName => (.error (.raised typeName), ledger)
          | .failed message => failing context target "chat.completions" message ledger
          | .answered completion =>
              recorded context target
                { streamed := false
                  promptTokens := completion.usage.promptTokens
                  completionTokens := completion.usage.completionTokens }
                ledger fun after => (.ok ⟨target.requestedModel, completion⟩, after)

structure EmbeddingsResponse where
  model : String
  vectors : List (List Rat)
  usage : TokenUsage

/-- `[raw] if isinstance(raw, str) else list(raw)` -/
def inputsOf : Json → Except String (List Json)
  | .str text => .ok [.str text]
  | raw => items raw

def embeddings (body : Dict) (provided : List Json → Provided EmbeddingResult)
    (context : CallContext) (ledger : Ledger) : Metered EmbeddingsResponse :=
  let context := context.attribute body
  match catalogue.resolve settings (requestedModel body) with
  | .error error => (.error (.app error), ledger)
  | .ok target =>
      match (body.get "input").getD .null with
      | .null => (.error (.app (validationError "'input' is required." [])), ledger)
      | raw =>
          match inputsOf raw with
          | .error typeName => (.error (.raised typeName), ledger)
          | .ok inputs =>
              match provided inputs with
              | .raised typeName => (.error (.raised typeName), ledger)
              | .failed message => failing context target "embeddings" message ledger
              | .answered result =>
                  recorded context target
                    { streamed := false, promptTokens := result.usage.promptTokens
                      endpoint := "embeddings" }
                    ledger fun after =>
                      (.ok ⟨target.requestedModel, result.vectors, result.usage⟩, after)

structure TranscriptionForm where
  model : String
  language : Option String
  prompt : Option String
  responseFormat : String
  timestamps : Bool

/-- The text, and the rest of the transcript for `verbose_json`. -/
structure TranscriptionResponse where
  text : Json
  verbose : Option Transcript

def transcribe (form : TranscriptionForm) (provided : Provided Transcript) (context : CallContext)
    (ledger : Ledger) : Metered TranscriptionResponse :=
  match catalogue.resolve settings form.model with
  | .error error => (.error (.app error), ledger)
  | .ok target =>
      match provided with
      | .raised typeName => (.error (.raised typeName), ledger)
      | .failed message => failing context target "audio.transcriptions" message ledger
      | .answered transcript =>
          match transcript.durationSeconds with
          | none => (.error (.raised "OverflowError"), ledger)
          | some seconds =>
              recorded context target
                { streamed := false, promptTokens := .num seconds.ceil
                  endpoint := "audio.transcriptions" }
                ledger fun after =>
                  (.ok ⟨transcript.text,
                      if (if truthy form.responseFormat then form.responseFormat else "json") =
                          "verbose_json" then some transcript else none⟩,
                    after.countRequest ⟨target.model.name, "audio.transcriptions", "2xx"⟩)

/-- The body of a synthesis, with its values as text; the speed is `none` where `float`
raises. -/
structure SpeechBody where
  model : String
  input : String
  voice : String
  responseFormat : String
  speed : Option Rat

def synthesize (body : SpeechBody) (provided : Provided SynthesizedSpeech) (context : CallContext)
    (ledger : Ledger) : Metered SynthesizedSpeech :=
  if !truthy body.input then
    (.error (.app (validationError "'input' is required." [])), ledger)
  else
    match catalogue.resolve settings body.model with
    | .error error => (.error (.app error), ledger)
    | .ok target =>
        match body.speed with
        | none => (.error (.raised "ValueError"), ledger)
        | some _ =>
            match provided with
            | .raised typeName => (.error (.raised typeName), ledger)
            | .failed message => failing context target "audio.speech" message ledger
            | .answered speech =>
                recorded context target
                  { streamed := false, promptTokens := .num body.input.length
                    endpoint := "audio.speech" }
                  ledger fun after =>
                    (.ok speech, after.countRequest ⟨target.model.name, "audio.speech", "2xx"⟩)

/-- A chunk of a stream; `moment` is the time at which it arrives. -/
structure Chunk where
  delta : String
  finishReason : Json
  toolCalls : List Json
  usage : Option TokenUsage
  moment : Rat

inductive StreamEnd
  | completed
  | failed (message : String)
  | raised (typeName : String)
  -- The client hangs up while the next chunk is awaited.
  | closed

inductive Frame
  | usage (promptTokens completionTokens : Json)
  | delta (chunk : Chunk)
  | error (message : String)
  | done

structure StreamAccounting where
  promptTokens : Json := .num 0
  completionTokens : Json := .num 0
  disconnected : Bool := false
  statusCode : Nat := 200
  firstTokenAt : Option Rat := none

structure Streamed where
  frames : List Frame
  accounting : StreamAccounting
  raised : Option String

/-- How the generator ends in each handler. A client that hangs up at one of the last two
frames of a failure does so outside of the `try`. -/
def concluded (ending : StreamEnd) (patience : Option Nat) (accounting : StreamAccounting) :
    Streamed :=
  match ending with
  | .completed =>
      match patience with
      | some 0 => ⟨[.done], { accounting with disconnected := true }, some "GeneratorExit"⟩
      | _ => ⟨[.done], accounting, none⟩
  | .failed message =>
      let accounting := { accounting with statusCode := 502 }
      match patience with
      | some 0 => ⟨[.error message], accounting, some "GeneratorExit"⟩
      | some 1 => ⟨[.error message, .done], accounting, some "GeneratorExit"⟩
      | _ => ⟨[.error message, .done], accounting, none⟩
  | .raised typeName => ⟨[], accounting, some typeName⟩
  | .closed => ⟨[], { accounting with disconnected := true }, some "CancelledError"⟩

/-- A frame, behind which the client may have gone: it takes as many frames as it has
patience for. -/
def yielded (frame : Frame) (patience : Option Nat) (accounting : StreamAccounting)
    (rest : Option Nat → Streamed) : Streamed :=
  match patience with
  | some 0 => ⟨[frame], { accounting with disconnected := true }, some "GeneratorExit"⟩
  | _ =>
      let later := rest (patience.map (· - 1))
      { later with frames := frame :: later.frames }

/-- The loop of `stream_chunks`. -/
def forward (wantsUsage : Bool) (ending : StreamEnd) :
    List Chunk → Option Nat → StreamAccounting → Streamed
  | [], patience, accounting => concluded ending patience accounting
  | chunk :: rest, patience, accounting =>
      match chunk.usage with
      | some usage =>
          let accounting := { accounting with
            promptTokens := usage.promptTokens, completionTokens := usage.completionTokens }
          if !wantsUsage then forward wantsUsage ending rest patience accounting
          else
            yielded (.usage usage.promptTokens usage.completionTokens) patience accounting
              fun patience => forward wantsUsage ending rest patience accounting
      | none =>
          let accounting := { accounting with
            firstTokenAt := accounting.firstTokenAt.or (some chunk.moment) }
          yielded (.delta chunk) patience accounting
            fun patience => forward wantsUsage ending rest patience accounting

/-- `bool((body.get("stream_options") or {}).get("include_usage"))` -/
def wantsUsage (body : Dict) : Except String Bool := do
  let options := orElse ((body.get "stream_options").getD .null) (.obj [])
  let included ← field options "include_usage" .null
  .ok included.truthy

abbrev Streaming := List ChatMessage → List Chunk × StreamEnd

def streamChunks (body : Dict) (provided : Streaming) (patience : Option Nat) : Streamed :=
  match wantsUsage body with
  | .error typeName => ⟨[], {}, some typeName⟩
  | .ok wantsUsage =>
      match messagesOf body with
      | .error typeName => ⟨[], {}, some typeName⟩
      | .ok messages =>
          let (chunks, ending) := provided messages
          forward wantsUsage ending chunks patience {}

def finaliseStream (context : CallContext) (target : ResolvedTarget)
    (accounting : StreamAccounting) (ledger : Ledger) : Metered Unit :=
  let observed := match accounting.firstTokenAt with
    | some moment =>
        { ledger with
          firstTokens := ledger.firstTokens ++ [(target.model.name, moment - context.started)] }
    | none => ledger
  record context target
    { streamed := true
      promptTokens := accounting.promptTokens
      completionTokens := accounting.completionTokens
      statusCode := accounting.statusCode
      clientDisconnected := accounting.disconnected }
    observed

/-- The streaming branch of `chat_completions`, with `prepare_stream` before the response
and `finalise_stream` behind it. -/
def streamedChat (body : Dict) (provided : Streaming) (patience : Option Nat)
    (context : CallContext) (ledger : Ledger) : Metered Streamed :=
  let context := context.attribute body
  if !((body.get "messages").getD .null).truthy then
    (.error (.app (validationError "'messages' must contain at least one message." [])), ledger)
  else
    match catalogue.resolve settings (requestedModel body) with
    | .error error => (.error (.app error), ledger)
    | .ok target =>
        let streamed := streamChunks body provided patience
        (.ok streamed, (finaliseStream context target streamed.accounting ledger).2)

end Calls

end AiPlatform.Metering
