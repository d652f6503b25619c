import AiPlatform.VoiceSockets
import Mathlib.Data.List.Induction

/-!
The audio of one voice socket: `_on_audio` and `_on_control` of `api/voice_ws.py` on its
buffer, frame by frame. `Spoken` cuts the same frames into utterances without a buffer,
so that what a turn is given can be compared with what was said.
-/

namespace AiPlatform.Voice

abbrev Bytes := List UInt8

inductive Inbound
  | audio (chunk : Bytes)
  /-- A text that is no JSON. -/
  | malformed
  /-- A control message, by its type in upper case. -/
  | control (kind : String)
  /-- JSON that is no object, or an interruption whose transaction fails. -/
  | fatal
  | disconnect

inductive Sent
  | listeningStarted | assistantInterrupted | malformedMessage | tooLong | noAudio
  | unknownType (kind : String)

/-- The state of the handler, with what it has sent and what each `AUDIO_END` gave a turn. -/
structure Handler where
  listening : Bool
  audio : Bytes
  turns : List (Option Bytes)
  sent : List Sent

namespace Handler

def opened : Handler := ⟨true, [], [], []⟩

def send (handler : Handler) (event : Sent) : Handler :=
  { handler with sent := handler.sent ++ [event] }

def onAudio (handler : Handler) (chunk : Bytes) : Handler :=
  if handler.audio.length + chunk.length > maxUtteranceBytes then
    { handler.send .tooLong with audio := [] }
  else { handler with audio := handler.audio ++ chunk }

def onControl (handler : Handler) : String → Handler
  | "AUDIO_START" => { handler.send .listeningStarted with audio := [] }
  | "AUDIO_END" =>
      if handler.audio = [] then
        { handler.send .noAudio with audio := [], turns := handler.turns ++ [none] }
      else { handler with audio := [], turns := handler.turns ++ [some handler.audio] }
  | "INTERRUPT" => handler.send .assistantInterrupted
  | "SESSION_END" => { handler with listening := false }
  | kind => handler.send (.unknownType kind)

def receive (handler : Handler) (frame : Inbound) : Handler :=
  if handler.listening then
    match frame with
    | .audio chunk => handler.onAudio chunk
    | .malformed => handler.send .malformedMessage
    | .control kind => handler.onControl kind
    | .fatal | .disconnect => { handler with listening := false }
  else handler

def after (frames : List Inbound) : Handler := frames.foldl receive opened

end Handler

structure Spoken where
  listening : Bool
  chunks : List Bytes
  ended : List (List Bytes)

namespace Spoken

def next (spoken : Spoken) (frame : Inbound) : Spoken :=
  if spoken.listening then
    match frame with
    | .audio chunk => { spoken with chunks := spoken.chunks ++ [chunk] }
    | .control "AUDIO_START" => { spoken with chunks := [] }
    | .control "AUDIO_END" => { spoken with chunks := [], ended := spoken.ended ++ [spoken.chunks] }
    | .control "SESSION_END" | .fatal | .disconnect => { spoken with listening := false }
    | .control _ | .malformed => spoken
  else spoken

def after (frames : List Inbound) : Spoken := frames.foldl next ⟨true, [], []⟩

end Spoken

/-- The utterances up to their `AUDIO_END`. -/
def utterances (frames : List Inbound) : List (List Bytes) := (Spoken.after frames).ended

def TooLong (chunks : List Bytes) : Prop := maxUtteranceBytes < chunks.flatten.length

instance (chunks : List Bytes) : Decidable (TooLong chunks) := Nat.decLt _ _

def intended (chunks : List Bytes) : Option Bytes :=
  if TooLong chunks ∨ chunks.flatten = [] then none else some chunks.flatten

def buffered (chunks : List Bytes) : Bytes :=
  chunks.foldl (fun audio chunk =>
    if audio.length + chunk.length > maxUtteranceBytes then [] else audio ++ chunk) []

def handedOver (chunks : List Bytes) : Option Bytes :=
  if buffered chunks = [] then none else some (buffered chunks)

section Buffer

variable {chunks : List Bytes} {chunk : Bytes}

theorem buffered_append (chunks : List Bytes) (chunk : Bytes) :
    buffered (chunks ++ [chunk]) =
      if (buffered chunks).length + chunk.length > maxUtteranceBytes then []
      else buffered chunks ++ chunk := by
  simp [buffered, List.foldl_append]

theorem buffered_over (exceeds : (buffered chunks).length + chunk.length > maxUtteranceBytes) :
    buffered (chunks ++ [chunk]) = [] := by
  rw [buffered_append, if_pos exceeds]

theorem buffered_fits (fits : ¬TooLong chunks) : buffered chunks = chunks.flatten := by
  induction chunks using List.reverseRecOn with
  | nil => rfl
  | append_singleton front chunk ih =>
      have total : (front ++ [chunk]).flatten.length = front.flatten.length + chunk.length := by
        simp
      unfold TooLong at fits ih
      rw [total] at fits
      have before := ih (by omega)
      rw [buffered_append, before, if_neg (by omega)]
      simp

/-- The last audio of the utterance came when it did not fit into the buffer. -/
def EndsTooLong (chunks : List Bytes) : Prop :=
  ∃ front chunk silence, chunks = front ++ chunk :: silence ∧
    (buffered front).length + chunk.length > maxUtteranceBytes ∧ ∀ rest ∈ silence, rest = []

theorem buffered_nil : buffered chunks = [] ↔ chunks.flatten = [] ∨ EndsTooLong chunks := by
  induction chunks using List.reverseRecOn with
  | nil => exact ⟨fun _ => .inl rfl, fun _ => rfl⟩
  | append_singleton front chunk ih =>
      rw [buffered_append]
      by_cases exceeds : (buffered front).length + chunk.length > maxUtteranceBytes
      · rw [if_pos exceeds]
        exact iff_of_true rfl (.inr ⟨front, chunk, [], rfl, exceeds, fun _ member => nomatch member⟩)
      · rw [if_neg exceeds, List.append_eq_nil_iff, ih]
        constructor
        · rintro ⟨flat | ⟨first, last, silence, same, fails, quiet⟩, rfl⟩
          · exact .inl (by simpa using flat)
          · refine .inr ⟨first, last, silence ++ [[]], by simp [same], fails, fun rest member => ?_⟩
            rcases List.mem_append.mp member with listed | here
            · exact quiet rest listed
            · exact List.mem_singleton.mp here
        · rintro (flat | ⟨first, last, silence, same, fails, quiet⟩)
          · simp only [List.flatten_append, List.flatten_singleton, List.append_eq_nil_iff] at flat
            exact ⟨.inl flat.1, flat.2⟩
          · rcases List.eq_nil_or_concat silence with rfl | ⟨more, rest, rfl⟩
            · obtain ⟨rfl, single⟩ := List.append_inj' same rfl
              cases single
              exact absurd fails exceeds
            · rw [List.concat_eq_append, ← List.cons_append, ← List.append_assoc] at same
              obtain ⟨rfl, single⟩ := List.append_inj' same rfl
              cases single
              refine ⟨.inr ⟨first, last, more, rfl, fails, fun rest member => ?_⟩, ?_⟩
              · exact quiet rest (by simp [member])
              · exact quiet chunk (by simp)

theorem handedOver_iff :
    handedOver chunks = intended chunks ↔ ¬TooLong chunks ∨ EndsTooLong chunks := by
  by_cases long : TooLong chunks
  · have nothing : intended chunks = none := if_pos (.inl long)
    have spoken : chunks.flatten ≠ [] := by
      intro none
      rw [TooLong, none] at long
      exact Nat.not_lt_zero _ long
    rw [nothing, handedOver]
    by_cases empty : buffered chunks = []
    · rw [if_pos empty]
      exact iff_of_true rfl (.inr ((buffered_nil.mp empty).resolve_left spoken))
    · rw [if_neg empty]
      refine iff_of_false (by simp) ?_
      rintro (fits | ends)
      · exact fits long
      · exact empty (buffered_nil.mpr (.inr ends))
  · refine iff_of_true ?_ (.inl long)
    rw [handedOver, intended, buffered_fits long]
    simp [long]

end Buffer

/-- The buffer has the utterance so far, and every turn that was started has its own. -/
structure Matches (handler : Handler) (spoken : Spoken) : Prop where
  listening : handler.listening = spoken.listening
  audio : handler.audio = buffered spoken.chunks
  turns : handler.turns = spoken.ended.map handedOver

section Runs

variable {handler : Handler} {spoken : Spoken}

theorem onControl_other {kind : String}
    (other : kind ∉ ["AUDIO_START", "AUDIO_END", "INTERRUPT", "SESSION_END"]) :
    handler.onControl kind = handler.send (.unknownType kind) ∧
      spoken.next (.control kind) = spoken := by
  simp only [List.mem_cons, List.not_mem_nil, or_false, not_or] at other
  obtain ⟨start, ends, interrupt, close⟩ := other
  constructor
  · unfold Handler.onControl
    split <;> first | rfl | contradiction
  · unfold Spoken.next
    split
    · split <;> first | rfl | contradiction | simp_all
    · rfl

theorem Matches.control (matched : Matches handler spoken) (listening : spoken.listening = true)
    (kind : String) : Matches (handler.onControl kind) (spoken.next (.control kind)) := by
  obtain ⟨same, audio, turns⟩ := matched
  by_cases known : kind ∈ ["AUDIO_START", "AUDIO_END", "INTERRUPT", "SESSION_END"]
  · simp only [List.mem_cons, List.not_mem_nil, or_false] at known
    rcases known with rfl | rfl | rfl | rfl
    · simp only [Handler.onControl, Spoken.next, listening, if_true]
      exact ⟨same.trans listening, rfl, turns⟩
    · simp only [Handler.onControl, Spoken.next, listening, if_true]
      split
      · next empty =>
          refine ⟨same.trans listening, rfl, ?_⟩
          rw [audio] at empty
          simp [turns, handedOver, empty]
      · next some =>
          refine ⟨same.trans listening, rfl, ?_⟩
          rw [audio] at some
          simp [turns, handedOver, some, audio]
    · simp only [Handler.onControl, Spoken.next, listening, if_true]
      exact ⟨same, audio, turns⟩
    · simp only [Handler.onControl, Spoken.next, listening, if_true]
      exact ⟨rfl, audio, turns⟩
  · obtain ⟨sends, stays⟩ := @onControl_other handler spoken kind known
    rw [sends, stays]
    exact ⟨same, audio, turns⟩

theorem Matches.receive (matched : Matches handler spoken) (frame : Inbound) :
    Matches (handler.receive frame) (spoken.next frame) := by
  cases listening : spoken.listening with
  | false =>
      have closed : handler.listening = false := matched.listening.trans listening
      simpa [Handler.receive, Spoken.next, closed, listening] using matched
  | true =>
      have open_ : handler.listening = true := matched.listening.trans listening
      unfold Handler.receive
      rw [if_pos open_]
      cases frame with
      | audio chunk =>
          simp only [Spoken.next, listening, if_true, Handler.onAudio]
          obtain ⟨same, audio, turns⟩ := matched
          split
          · next exceeds =>
              refine ⟨same.trans listening, ?_, turns⟩
              rw [audio] at exceeds
              rw [buffered_append, if_pos exceeds]
          · next fits =>
              refine ⟨same.trans listening, ?_, turns⟩
              rw [audio] at fits
              rw [buffered_append, if_neg fits, audio]
      | malformed =>
          simp only [Spoken.next, listening, if_true]
          exact ⟨matched.listening, matched.audio, matched.turns⟩
      | control kind => exact matched.control listening kind
      | fatal =>
          simp only [Spoken.next, listening, if_true]
          exact ⟨rfl, matched.audio, matched.turns⟩
      | disconnect =>
          simp only [Spoken.next, listening, if_true]
          exact ⟨rfl, matched.audio, matched.turns⟩

theorem matches_after (frames : List Inbound) :
    Matches (Handler.after frames) (Spoken.after frames) := by
  induction frames using List.reverseRecOn with
  | nil => exact ⟨rfl, rfl, rfl⟩
  | append_singleton front frame ih =>
      simp only [Handler.after, Spoken.after, List.foldl_append, List.foldl_cons, List.foldl_nil]
      exact ih.receive frame

end Runs

section Sockets

variable {system : System} {s : Nat} {actor : Actor}

end Sockets

/-- Every utterance is transcribed as a whole or dropped as a whole exactly if the last audio
of each one that is too long is a chunk that did not fit. -/
theorem utterances_are_whole_iff (frames : List Inbound) :
    (Handler.after frames).turns = (utterances frames).map intended ↔
      ∀ chunks ∈ utterances frames, ¬TooLong chunks ∨ EndsTooLong chunks := by
  rw [(matches_after frames).turns]
  change (utterances frames).map handedOver = _ ↔ _
  rw [List.map_inj_left]
  exact forall₂_congr fun _ _ => handedOver_iff

/-- The utterance is full with its first chunk, the second one overflows, and a third one
follows. -/
def overfull : List Bytes := [List.replicate maxUtteranceBytes 0] ++ [[1]] ++ [[2]]

/-- What comes behind the overflow is transcribed as an utterance of its own. -/
theorem the_tail_is_transcribed : ∃ frames, utterances frames = [overfull] ∧ TooLong overfull ∧
    intended overfull = none ∧ (Handler.after frames).turns = [some [2]] := by
  have ended : utterances (overfull.map .audio ++ [.control "AUDIO_END"]) = [overfull] := rfl
  have long : TooLong overfull := by simp [TooLong, overfull]
  have full : buffered [List.replicate maxUtteranceBytes 0] = List.replicate maxUtteranceBytes 0 := by
    rw [buffered_fits (by simp [TooLong])]
    exact List.append_nil _
  have cleared : buffered ([List.replicate maxUtteranceBytes 0] ++ [[1]]) = [] := by
    refine buffered_over ?_
    rw [full, List.length_replicate, List.length_singleton]
    omega
  have tail : buffered overfull = [2] := by
    rw [overfull, buffered_append, cleared, if_neg (by decide)]
    rfl
  refine ⟨_, ended, long, if_pos (.inl long), ?_⟩
  rw [(matches_after _).turns]
  change (utterances _).map handedOver = _
  rw [ended, List.map_singleton, handedOver, tail]
  rfl

end AiPlatform.Voice
