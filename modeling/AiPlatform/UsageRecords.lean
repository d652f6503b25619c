import AiPlatform.GatewayUsage

/-!
Whether a call of the gateway leaves one usage record and one count of a request, with
the status and the token counts of what became of it.
-/

namespace AiPlatform.Metering

open Agents (Dict Json truthy)
open Serving (Catalogue ResolvedTarget Settings)

/-- A call, with what the engine does about it and how long the client of a stream stays. -/
inductive Call
  | chat (body : Dict) (provided : List ChatMessage → Provided Completion)
  | stream (body : Dict) (provided : Streaming) (patience : Option Nat)
  | embeddings (body : Dict) (provided : List Json → Provided EmbeddingResult)
  | transcription (form : TranscriptionForm) (provided : Provided Transcript)
  | speech (body : SpeechBody) (provided : Provided SynthesizedSpeech)

def Call.model : Call → String
  | .chat body _ | .stream body _ _ | .embeddings body _ => requestedModel body
  | .transcription form _ => form.model
  | .speech body _ => body.model

def Call.endpoint : Call → String
  | .chat _ _ | .stream _ _ _ => "chat.completions"
  | .embeddings _ _ => "embeddings"
  | .transcription _ _ => "audio.transcriptions"
  | .speech _ _ => "audio.speech"

def serve (settings : Settings) (catalogue : Catalogue) (context : CallContext) (ledger : Ledger) :
    Call → Ledger
  | .chat body provided => (chatCompletion settings catalogue body provided context ledger).2
  | .stream body provided patience =>
      (streamedChat settings catalogue body provided patience context ledger).2
  | .embeddings body provided => (embeddings settings catalogue body provided context ledger).2
  | .transcription form provided => (transcribe settings catalogue form provided context ledger).2
  | .speech body provided => (synthesize settings catalogue body provided context ledger).2

inductive Outcome
  -- Answered in full, or as far as the client stayed.
  | served
  -- The engine raised `ProviderError`.
  | failed
  -- Refused, or ended by another exception.
  | broken
  deriving DecidableEq

def Outcome.fits : Outcome → Nat → Prop
  | .served, status => status = 200
  | .failed, status => status = 502
  | .broken, status => 400 ≤ status

structure Due where
  outcome : Outcome
  promptTokens : Json := .num 0
  completionTokens : Json := .num 0

def Provided.due {α : Type} (tokens : α → Due) : Provided α → Due
  | .answered value => tokens value
  | .failed _ => { outcome := .failed }
  | .raised _ => { outcome := .broken }

def heard (wantsUsage : Bool) : List Chunk → Option Nat → List Chunk × Option (Option Nat)
  | [], patience => ([], some patience)
  | chunk :: rest, patience =>
      if chunk.usage.isSome && !wantsUsage then
        let later := heard wantsUsage rest patience
        (chunk :: later.1, later.2)
      else
        match patience with
        | some 0 => ([chunk], none)
        | _ =>
            let later := heard wantsUsage rest (patience.map (· - 1))
            (chunk :: later.1, later.2)

def reported (tokens : Json × Json) (chunks : List Chunk) : Json × Json :=
  chunks.foldl (fun tokens chunk => match chunk.usage with
    | some usage => (usage.promptTokens, usage.completionTokens)
    | none => tokens) tokens

def StreamEnd.outcome : StreamEnd → Outcome
  | .completed | .closed => .served
  | .failed _ => .failed
  | .raised _ => .broken

def streamDue (wantsUsage : Bool) (streaming : List Chunk × StreamEnd) (patience : Option Nat) :
    Due :=
  let (seen, left) := heard wantsUsage streaming.1 patience
  let tokens := reported (.num 0, .num 0) seen
  ⟨if left.isSome then streaming.2.outcome else .served, tokens.1, tokens.2⟩

def Call.due : Call → Due
  | .chat body provided =>
      match messagesOf body with
      | .error _ | .ok [] => { outcome := .broken }
      | .ok messages => (provided messages).due fun completion =>
          ⟨.served, completion.usage.promptTokens, completion.usage.completionTokens⟩
  | .stream body provided patience =>
      if !((body.get "messages").getD .null).truthy then { outcome := .broken }
      else
        match wantsUsage body, messagesOf body with
        | .ok wantsUsage, .ok messages => streamDue wantsUsage (provided messages) patience
        | _, _ => { outcome := .broken }
  | .embeddings body provided =>
      match (body.get "input").getD .null with
      | .null => { outcome := .broken }
      | raw =>
          match inputsOf raw with
          | .error _ => { outcome := .broken }
          | .ok inputs => (provided inputs).due fun result =>
              { outcome := .served, promptTokens := result.usage.promptTokens }
  | .transcription _ provided => provided.due fun transcript =>
      match transcript.durationSeconds with
      | none => { outcome := .broken }
      | some seconds => { outcome := .served, promptTokens := .num seconds.ceil }
  | .speech body provided =>
      if !truthy body.input || body.speed.isNone then { outcome := .broken }
      else provided.due fun _ => { outcome := .served, promptTokens := .num body.input.length }

def Accounted (target : ResolvedTarget) (call : Call) (ledger after : Ledger) : Prop :=
  ∃ row, after.records = ledger.records ++ [row] ∧
    after.requests = ledger.requests ++ [⟨row.model, row.endpoint, statusClass row.statusCode⟩] ∧
    row.model = target.model.name ∧ row.requestedModel = target.requestedModel ∧
    row.endpoint = call.endpoint ∧ call.due.outcome.fits row.statusCode ∧
    row.promptTokens = call.due.promptTokens ∧ row.completionTokens = call.due.completionTokens

def countable (amount : Json) : Bool :=
  !amount.truthy || (number amount).any fun value => 0 ≤ value

/-- The tokens of the outcome can be counted, and it was no exception of an unexpected
kind; audio was not served at all. -/
def Call.Sound (call : Call) : Prop :=
  match call with
  | .chat _ _ | .stream _ _ _ | .embeddings _ _ =>
      call.due.outcome ≠ .broken ∧ countable call.due.promptTokens = true ∧
        countable call.due.completionTokens = true
  | .transcription _ _ | .speech _ _ => call.due.outcome = .failed

section Records

variable {context : CallContext} {target : ResolvedTarget} {usage : Usage} {ledger after : Ledger}
  {call : Call}

theorem countTokens_ok {amount : Json} (counts : countable amount = true) (model kind : String)
    (ledger : Ledger) :
    ∃ after, ledger.countTokens model kind amount = .ok after ∧
      after.records = ledger.records ∧ after.requests = ledger.requests := by
  unfold Ledger.countTokens
  by_cases empty : amount.truthy = true
  · simp only [countable, empty, Bool.not_true, Bool.false_or, Option.any_eq_true,
      decide_eq_true_eq] at counts
    obtain ⟨value, same, positive⟩ := counts
    simp only [empty, Bool.not_true, Bool.false_eq_true, if_false, same]
    rw [if_neg (Rat.not_lt.mpr positive)]
    exact ⟨_, rfl, rfl, rfl⟩
  · simp only [Bool.not_eq_true] at empty
    simp only [empty, Bool.not_false, if_true]
    exact ⟨_, rfl, rfl, rfl⟩

theorem countTokens_error {amount : Json} (counts : countable amount = false)
    (model kind : String) (ledger : Ledger) :
    ∃ refusal, ledger.countTokens model kind amount = .error refusal := by
  simp only [countable, Bool.or_eq_false_iff, Bool.not_eq_false'] at counts
  obtain ⟨given, refused⟩ := counts
  unfold Ledger.countTokens
  simp only [given, Bool.not_true, Bool.false_eq_true, if_false]
  cases same : number amount with
  | none => exact ⟨_, rfl⟩
  | some value =>
      simp only [same, Option.any_some, decide_eq_false_iff_not, Rat.not_le] at refused
      simp only [if_pos refused]
      exact ⟨_, rfl⟩

theorem record_cases (context : CallContext) (target : ResolvedTarget) (usage : Usage)
    (ledger : Ledger) :
    ((countable usage.promptTokens = true ∧ countable usage.completionTokens = true) ∧
      ∃ after, record context target usage ledger = (.ok (), after) ∧
        after.records = ledger.records ++ [usage.row context target] ∧
        after.requests = ledger.requests ++ [usage.labels target]) ∨
    (¬ (countable usage.promptTokens = true ∧ countable usage.completionTokens = true) ∧
      ∃ refusal after, record context target usage ledger = (.error refusal, after) ∧
        after.records = ledger.records) := by
  unfold record
  dsimp only
  cases prompt : countable usage.promptTokens with
  | false =>
      obtain ⟨_, first⟩ := countTokens_error prompt target.model.name "prompt"
        (ledger.countRequest (usage.labels target))
      rw [first]
      exact .inr ⟨by simp, _, _, rfl, rfl⟩
  | true =>
      obtain ⟨prompted, first, kept, counted⟩ := countTokens_ok prompt target.model.name "prompt"
        (ledger.countRequest (usage.labels target))
      rw [first]
      dsimp only
      cases completion : countable usage.completionTokens with
      | false =>
          obtain ⟨_, second⟩ := countTokens_error completion target.model.name "completion" prompted
          rw [second]
          exact .inr ⟨by simp, _, _, rfl, kept⟩
      | true =>
          obtain ⟨metered, second, kept', counted'⟩ := countTokens_ok completion target.model.name
            "completion" prompted
          rw [second]
          refine .inl ⟨⟨rfl, rfl⟩, _, rfl, ?_, ?_⟩
          · rw [kept', kept]
            rfl
          · rw [counted', counted]
            rfl

theorem not_accounted (same : after.records = ledger.records) :
    ¬ Accounted target call ledger after := by
  rintro ⟨row, added, _⟩
  rw [same] at added
  simp at added

theorem record_accounted {start : Ledger} (records : start.records = ledger.records)
    (requests : start.requests = ledger.requests) (endpoint : usage.endpoint = call.endpoint)
    (prompt : usage.promptTokens = call.due.promptTokens)
    (completion : usage.completionTokens = call.due.completionTokens) :
    Accounted target call ledger (record context target usage start).2 ↔
      call.due.outcome.fits usage.statusCode ∧ countable call.due.promptTokens = true ∧
        countable call.due.completionTokens = true := by
  rw [← prompt, ← completion]
  obtain ⟨counts, after, same, added, counted⟩ | ⟨refused, _, after, same, kept⟩ :=
    record_cases context target usage start
  · rw [same]
    constructor
    · rintro ⟨row, added', _, _, _, _, fits, _⟩
      rw [added, records] at added'
      have same := List.singleton_inj.mp (List.append_cancel_left added')
      subst same
      exact ⟨fits, counts⟩
    · rintro ⟨fits, _⟩
      refine ⟨usage.row context target, ?_, ?_, rfl, rfl, endpoint, fits, prompt, completion⟩
      · rw [added, records]
      · rw [counted, requests]
        rfl
  · rw [same]
    exact iff_of_false (not_accounted (kept.trans records)) fun expected => refused expected.2

theorem recorded_accounted {α : Type} {rest : Ledger → Metered α}
    (keeps : ∀ after, (rest after).2 = after) (endpoint : usage.endpoint = call.endpoint)
    (prompt : usage.promptTokens = call.due.promptTokens)
    (completion : usage.completionTokens = call.due.completionTokens) :
    Accounted target call ledger (recorded context target usage ledger rest).2 ↔
      call.due.outcome.fits usage.statusCode ∧ countable call.due.promptTokens = true ∧
        countable call.due.completionTokens = true := by
  rw [← @record_accounted context _ _ ledger _ ledger rfl rfl endpoint prompt completion]
  unfold recorded
  split
  · rename_i same
    rw [same]
  · rename_i same
    rw [same, keeps]

theorem failing_accounted {α : Type} {message : String}
    (failed : call.due = { outcome := .failed }) :
    Accounted target call ledger
      (failing (α := α) context target call.endpoint message ledger).2 := by
  refine (recorded_accounted (fun _ => rfl) rfl ?_ ?_).mpr ?_
  · rw [failed]
  · rw [failed]
  · rw [failed]
    exact ⟨rfl, rfl, rfl⟩

theorem Call.Sound.not_broken (sound : call.Sound) : call.due.outcome ≠ .broken := by
  cases call with
  | chat | stream | embeddings => exact sound.1
  | transcription | speech =>
      intro broken
      rw [Call.Sound, broken] at sound
      cases sound

theorem broken_accounted (broken : call.due = { outcome := .broken })
    (kept : after.records = ledger.records) :
    Accounted target call ledger after ↔ call.Sound :=
  iff_of_false (not_accounted kept) fun sound => sound.not_broken (by rw [broken])

theorem failed_accounted {α : Type} {message : String}
    (failed : call.due = { outcome := .failed }) :
    Accounted target call ledger
      (failing (α := α) context target call.endpoint message ledger).2 ↔ call.Sound := by
  refine iff_of_true (failing_accounted failed) ?_
  cases call with
  | chat | stream | embeddings =>
      simp only [Call.Sound, failed]
      exact ⟨nofun, rfl, rfl⟩
  | transcription | speech => simp only [Call.Sound, failed]

theorem recounted_not_accounted {α : Type} {value : α} {labels : RequestLabels} :
    ¬ Accounted target call ledger
      (recorded context target usage ledger fun after =>
        (.ok value, after.countRequest labels)).2 := by
  unfold recorded
  obtain ⟨_, after, same, _, counted⟩ | ⟨_, _, after, same, kept⟩ :=
    record_cases context target usage ledger
  · rw [same]
    rintro ⟨row, _, counted', _⟩
    change after.requests ++ [labels] = _ at counted'
    rw [counted] at counted'
    have lengths := congrArg List.length counted'
    simp only [List.length_append, List.length_singleton] at lengths
    omega
  · rw [same]
    exact not_accounted kept

end Records

section Operations

variable {settings : Settings} {catalogue : Catalogue} {context : CallContext}
  {target : ResolvedTarget} {ledger : Ledger}

theorem chat_accounted {body : Dict} {provided : List ChatMessage → Provided Completion}
    (resolved : catalogue.resolve settings (requestedModel body) = .ok target) :
    Accounted target (.chat body provided) ledger
        (serve settings catalogue context ledger (.chat body provided)) ↔
      (Call.chat body provided).Sound := by
  unfold serve chatCompletion
  simp only [resolved]
  cases read : messagesOf body with
  | error typeName => exact broken_accounted (by simp only [Call.due, read]) rfl
  | ok messages =>
      cases messages with
      | nil => exact broken_accounted (by simp only [Call.due, read]) rfl
      | cons message rest =>
          have due : (Call.chat body provided).due = (provided (message :: rest)).due
              fun completion => ⟨.served, completion.usage.promptTokens,
                completion.usage.completionTokens⟩ := by
            simp only [Call.due, read]
          dsimp only
          generalize provided (message :: rest) = outcome at due ⊢
          cases outcome with
          | raised typeName => exact broken_accounted due rfl
          | failed text => exact failed_accounted due
          | answered completion =>
              dsimp only [Provided.due] at due ⊢
              rw [recorded_accounted (fun _ => rfl) rfl (by rw [due]) (by rw [due])]
              simp only [Call.Sound, due, Outcome.fits, ne_eq, reduceCtorEq, not_false_eq_true]

theorem embeddings_accounted {body : Dict} {provided : List Json → Provided EmbeddingResult}
    (resolved : catalogue.resolve settings (requestedModel body) = .ok target) :
    Accounted target (.embeddings body provided) ledger
        (serve settings catalogue context ledger (.embeddings body provided)) ↔
      (Call.embeddings body provided).Sound := by
  unfold serve embeddings
  simp only [resolved]
  cases raw : (body.get "input").getD .null with
  | null => exact broken_accounted (by simp only [Call.due, raw]) rfl
  | _ =>
      dsimp only
      generalize read : inputsOf _ = inputs
      cases inputs with
      | error typeName => exact broken_accounted (by simp only [Call.due, raw, read]) rfl
      | ok inputs =>
          have due : (Call.embeddings body provided).due = (provided inputs).due
              fun result => { outcome := .served, promptTokens := result.usage.promptTokens } := by
            simp only [Call.due, raw, read]
          dsimp only
          generalize provided inputs = outcome at due ⊢
          cases outcome with
          | raised typeName => exact broken_accounted due rfl
          | failed text => exact failed_accounted due
          | answered result =>
              dsimp only [Provided.due] at due ⊢
              rw [recorded_accounted (fun _ => rfl) rfl (by rw [due]) (by rw [due])]
              simp only [Call.Sound, due, Outcome.fits, ne_eq, reduceCtorEq, not_false_eq_true]

theorem transcription_accounted {form : TranscriptionForm} {provided : Provided Transcript}
    (resolved : catalogue.resolve settings form.model = .ok target) :
    Accounted target (.transcription form provided) ledger
        (serve settings catalogue context ledger (.transcription form provided)) ↔
      (Call.transcription form provided).Sound := by
  unfold serve transcribe
  simp only [resolved]
  cases provided with
  | raised typeName => exact broken_accounted rfl rfl
  | failed text => exact failed_accounted rfl
  | answered transcript =>
      cases length : transcript.durationSeconds with
      | none =>
          simp only [length]
          exact broken_accounted (by simp only [Call.due, Provided.due, length]) rfl
      | some seconds =>
          simp only [length]
          refine iff_of_false recounted_not_accounted fun sound => ?_
          simp only [Call.Sound, Call.due, Provided.due, length, reduceCtorEq] at sound

theorem speech_accounted {body : SpeechBody} {provided : Provided SynthesizedSpeech}
    (resolved : catalogue.resolve settings body.model = .ok target) :
    Accounted target (.speech body provided) ledger
        (serve settings catalogue context ledger (.speech body provided)) ↔
      (Call.speech body provided).Sound := by
  unfold serve synthesize
  simp only [resolved]
  cases empty : truthy body.input with
  | false => exact broken_accounted (by simp only [Call.due, empty]; rfl) rfl
  | true =>
      cases speed : body.speed with
      | none => exact broken_accounted (by simp only [Call.due, speed, empty]; rfl) rfl
      | some value =>
          have due : (Call.speech body provided).due = provided.due fun _ =>
              { outcome := .served, promptTokens := .num body.input.length } := by
            simp only [Call.due, speed, empty]
            rfl
          simp only [Bool.not_true, Bool.false_eq_true, if_false]
          cases provided with
          | raised typeName => exact broken_accounted due rfl
          | failed text => exact failed_accounted due
          | answered speech =>
              refine iff_of_false recounted_not_accounted fun sound => ?_
              simp only [Call.Sound, due, Provided.due, reduceCtorEq] at sound

theorem concluded_accounting (ending : StreamEnd) (patience : Option Nat)
    (accounting : StreamAccounting) :
    let after := (concluded ending patience accounting).accounting
    after.promptTokens = accounting.promptTokens ∧
      after.completionTokens = accounting.completionTokens ∧
      after.statusCode = if ending.outcome = .failed then 502 else accounting.statusCode := by
  cases ending with
  | completed =>
      dsimp only [concluded]
      split <;> exact ⟨rfl, rfl, rfl⟩
  | failed message =>
      dsimp only [concluded]
      split <;> exact ⟨rfl, rfl, rfl⟩
  | raised typeName => exact ⟨rfl, rfl, rfl⟩
  | closed => exact ⟨rfl, rfl, rfl⟩

theorem forward_accounting (wantsUsage : Bool) (ending : StreamEnd) (chunks : List Chunk)
    (patience : Option Nat) (accounting : StreamAccounting) :
    let after := (forward wantsUsage ending chunks patience accounting).accounting
    let seen := heard wantsUsage chunks patience
    (after.promptTokens, after.completionTokens) =
        reported (accounting.promptTokens, accounting.completionTokens) seen.1 ∧
      after.statusCode =
        if seen.2.isSome = true ∧ ending.outcome = .failed then 502 else accounting.statusCode := by
  induction chunks generalizing patience accounting with
  | nil =>
      obtain ⟨prompt, completion, status⟩ := concluded_accounting ending patience accounting
      simp only [forward, heard, reported, List.foldl_nil, Option.isSome_some, true_and]
      exact ⟨Prod.ext prompt completion, status⟩
  | cons chunk rest ih =>
      cases usage : chunk.usage with
      | none =>
          simp only [forward, heard, usage, Option.isSome_none, Bool.false_and, Bool.false_eq_true,
            if_false, yielded]
          split
          · simp only [reported, List.foldl_cons, List.foldl_nil, usage, Option.isSome_none,
              Bool.false_eq_true, false_and, if_false, and_self]
          · simp only [reported, List.foldl_cons, usage]
            exact ih _ _
      | some counts =>
          cases wantsUsage with
          | false =>
              simp only [forward, heard, usage, Option.isSome_some, Bool.not_false, Bool.and_true,
                if_true, reported, List.foldl_cons]
              exact ih _ _
          | true =>
              simp only [forward, heard, usage, Option.isSome_some, Bool.not_true, Bool.and_false,
                Bool.false_eq_true, if_false, yielded]
              split
              · simp only [reported, List.foldl_cons, List.foldl_nil, usage, Option.isSome_none,
                  Bool.false_eq_true, false_and, if_false, and_self]
              · simp only [reported, List.foldl_cons, usage]
                exact ih _ _

theorem finalised_accounted {body : Dict} {provided : Streaming} {patience : Option Nat}
    {accounting : StreamAccounting}
    (tokens : (accounting.promptTokens, accounting.completionTokens) =
      ((Call.stream body provided patience).due.promptTokens,
        (Call.stream body provided patience).due.completionTokens))
    (status : accounting.statusCode =
      if (Call.stream body provided patience).due.outcome = .failed then 502 else 200) :
    Accounted target (.stream body provided patience) ledger
        (finaliseStream context target accounting ledger).2 ↔
      (Call.stream body provided patience).Sound := by
  obtain ⟨prompt, completion⟩ := Prod.mk.inj tokens
  unfold finaliseStream
  dsimp only
  rw [record_accounted (by split <;> rfl) (by split <;> rfl) rfl prompt completion]
  refine and_congr_left' ?_
  rw [status]
  cases (Call.stream body provided patience).due.outcome with
  | served => exact iff_of_true rfl nofun
  | failed => exact iff_of_true rfl nofun
  | broken => exact iff_of_false (by simp [Outcome.fits]) fun sound => sound rfl

theorem stream_accounted {body : Dict} {provided : Streaming} {patience : Option Nat}
    (resolved : catalogue.resolve settings (requestedModel body) = .ok target) :
    Accounted target (.stream body provided patience) ledger
        (serve settings catalogue context ledger (.stream body provided patience)) ↔
      (Call.stream body provided patience).Sound := by
  unfold serve streamedChat
  dsimp only
  cases asked : ((body.get "messages").getD .null).truthy with
  | false => exact broken_accounted (by simp only [Call.due, asked]; rfl) rfl
  | true =>
      simp only [Bool.not_true, Bool.false_eq_true, if_false, resolved]
      unfold streamChunks
      cases wants : wantsUsage body with
      | error typeName =>
          have due : (Call.stream body provided patience).due = { outcome := .broken } := by
            simp only [Call.due, asked, wants]
            rfl
          refine finalised_accounted ?_ ?_
          · rw [due]
          · rw [due]
            rfl
      | ok wanted =>
          cases read : messagesOf body with
          | error typeName =>
              have due : (Call.stream body provided patience).due = { outcome := .broken } := by
                simp only [Call.due, asked, wants, read]
                rfl
              refine finalised_accounted ?_ ?_
              · rw [due]
              · rw [due]
                rfl
          | ok messages =>
              have due : (Call.stream body provided patience).due =
                  streamDue wanted (provided messages) patience := by
                simp only [Call.due, asked, wants, read]
                rfl
              obtain ⟨tokens, status⟩ := forward_accounting wanted (provided messages).2
                (provided messages).1 patience {}
              refine finalised_accounted ?_ ?_
              · rw [due]
                exact tokens
              · rw [due]
                refine status.trans (if_congr ?_ rfl rfl)
                dsimp only [streamDue]
                cases (heard wanted (provided messages).1 patience).2 with
                | none => simp
                | some left => simp

end Operations

/-- A call whose model resolved leaves one record and one count, with the status and the
tokens of what became of it, if and only if it came to one of the outcomes that are handled:
an answer of a chat, a stream or embeddings with tokens that can be counted, or a
`ProviderError`. -/
theorem calls_accounted_iff {settings : Settings} {catalogue : Catalogue} {call : Call}
    {target : ResolvedTarget} (resolved : catalogue.resolve settings call.model = .ok target)
    (context : CallContext) (ledger : Ledger) :
    Accounted target call ledger (serve settings catalogue context ledger call) ↔ call.Sound := by
  cases call with
  | chat body provided => exact chat_accounted resolved
  | stream body provided patience => exact stream_accounted resolved
  | embeddings body provided => exact embeddings_accounted resolved
  | transcription form provided => exact transcription_accounted resolved
  | speech body provided => exact speech_accounted resolved

def caller : CallContext where
  endUser := none
  endUserTrusted := false
  apiKeyId := some 1
  userId := none
  started := 0

def question : Dict :=
  [("model", .str "fast"),
    ("messages", .arr [.obj [("role", .str "user"), ("content", .str "Hello")]])]

def answeredChat : Call :=
  .chat question fun _ => .answered
    ⟨.str "1", .str "llama", .str "Hello", .str "stop", [], ⟨.num 3, .num 2, .num 5⟩⟩

theorem answered_chat_is_accounted :
    ∃ target, Serving.Catalogue.served.resolve Serving.site answeredChat.model = .ok target ∧
      Accounted target answeredChat ⟨[], [], [], []⟩
        (serve Serving.site Serving.Catalogue.served caller ⟨[], [], [], []⟩ answeredChat) :=
  ⟨_, rfl, (calls_accounted_iff rfl _ _).mpr ⟨by decide, by decide, by decide⟩⟩

def malformedChat : Call :=
  .chat question fun _ => received (fun _ => "") (completionOf "llama") (.response 200 none)

def servedSpeech : Call := .speech ⟨"fast", "Hello", "alloy", "wav", some 1⟩ (.answered ⟨[], "wav"⟩)

theorem malformed_and_spoken_are_miscounted :
    ∃ target, Serving.Catalogue.served.resolve Serving.site "fast" = .ok target ∧
      ¬ Accounted target malformedChat ⟨[], [], [], []⟩
        (serve Serving.site Serving.Catalogue.served caller ⟨[], [], [], []⟩ malformedChat) ∧
      ¬ Accounted target servedSpeech ⟨[], [], [], []⟩
        (serve Serving.site Serving.Catalogue.served caller ⟨[], [], [], []⟩ servedSpeech) := by
  refine ⟨_, rfl, not_accounted rfl, fun accounted => ?_⟩
  have sound := (speech_accounted rfl).mp accounted
  cases sound

end AiPlatform.Metering
