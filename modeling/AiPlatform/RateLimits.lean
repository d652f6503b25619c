import AiPlatform.ApiKeys
import AiPlatform.FixedWindows

/-!
The two limits on requests per minute, which count in one Redis:
`check_rate_limit` of `app/services/gateway.py` for an API key, and
`_limit_enrollment_attempts` of `app/api/deps.py` for the address that a node
enrols from. The clock of a host is read in whole seconds, of which the window
is a sixtieth.
-/

namespace AiPlatform.RateLimits

open FixedWindows ApiKeys

inductive Request
  | checkRateLimit (key : ApiKey)
  | limitEnrollmentAttempts (sourceIp : Option String) (rateLimitPerMinutePerIp : Int)
  deriving DecidableEq

inductive Source
  | key (id : Uuid)
  | address (sourceIp : String)
  deriving DecidableEq

structure RateLimitError where
  message : String
  details : List (String × Int)
  deriving DecidableEq

namespace Request

def source : Request → Option Source
  | .checkRateLimit key => some (.key key.id)
  | .limitEnrollmentAttempts sourceIp _ => (sourceIp.filter fun text => text ≠ "").map .address

def limit : Request → Int
  | .checkRateLimit key => key.rateLimitPerMinute
  | .limitEnrollmentAttempts _ rateLimitPerMinutePerIp => rateLimitPerMinutePerIp

def refusal : Request → RateLimitError
  | .checkRateLimit key =>
      ⟨s!"Rate limit of {key.rateLimitPerMinute} requests/minute exceeded.",
        [("limit", key.rateLimitPerMinute), ("retry_after_seconds", 60)]⟩
  | .limitEnrollmentAttempts _ _ =>
      ⟨"Too many enrolment attempts from this address. Wait a minute and retry.", []⟩

end Request

def bucket : Source → Nat → List Char
  | .key id, window => "ratelimit:".toList ++ (id.str.toList ++ ':' :: Nat.toDigits 10 window)
  | .address sourceIp, window =>
      "enroll:ratelimit:".toList ++ (sourceIp.toList ++ ':' :: Nat.toDigits 10 window)

/-- Digits are behind the last colon, wherever there are others. -/
theorem numbered_inj {left right : List Char} {window later : Nat}
    (same : left ++ ':' :: Nat.toDigits 10 window = right ++ ':' :: Nat.toDigits 10 later) :
    left = right ∧ window = later := by
  have digits (n : Nat) : ∀ c ∈ (Nat.toDigits 10 n).reverse, (c ≠ ':' : Bool) = true := by
    intro c member
    have digit := Nat.isDigit_of_mem_toDigits (by decide) (by decide) (List.mem_reverse.mp member)
    refine decide_eq_true fun equal => ?_
    rw [equal] at digit
    exact absurd digit (by decide)
  have back (front : List Char) (n : Nat) :
      (front ++ ':' :: Nat.toDigits 10 n).reverse.takeWhile (· ≠ ':') =
        (Nat.toDigits 10 n).reverse := by
    rw [List.reverse_append, List.reverse_cons, List.append_assoc,
      List.takeWhile_append_of_pos (digits n)]
    simp
  have tails : Nat.toDigits 10 window = Nat.toDigits 10 later := by
    rw [← List.reverse_inj, ← back left window, ← back right later, same]
  refine ⟨List.append_cancel_right (tails ▸ same), ?_⟩
  rw [← Nat.ofDigitChars_ten_toDigits (n := window), tails, Nat.ofDigitChars_ten_toDigits]

theorem bucket_separate {source other : Source} {window later : Nat}
    (same : bucket source window = bucket other later) : source = other ∧ window = later := by
  cases source <;> cases other
  · obtain ⟨texts, windows⟩ := numbered_inj (List.append_cancel_left same)
    exact ⟨congrArg _ (Uuid.str_injective (String.toList_injective texts)), windows⟩
  · exact absurd (List.cons.inj same).1 (by decide)
  · exact absurd (List.cons.inj same).1 (by decide)
  · obtain ⟨texts, windows⟩ := numbered_inj (List.append_cancel_left same)
    exact ⟨congrArg _ (String.toList_injective texts), windows⟩

def limiter : Limiter Request Source (List Char) where
  span := 60
  life := 120
  source := Request.source
  limit := Request.limit
  bucket := bucket
  separate := bucket_separate

/-- How a check ends, once it has. -/
def outcome (request : Request) : Stage → Option (Except RateLimitError Unit)
  | .counting | .marking => none
  | .refused _ => some (.error request.refusal)
  | .passed _ | .unlimited => some (.ok ())

variable {state : State Request Source (List Char)} {skew now limit : Nat}

theorem limit_per_minute (reached : Reached limiter skew now state) {ids : List Nat}
    (distinct : ids.Nodup) (source : Source) (minute : Nat)
    (passed : ∀ i ∈ ids, ∃ ticket, state.Passed limiter limit i ticket ∧
      ticket.source = source ∧ ticket.reading / 60 = minute) : ids.length ≤ limit :=
  passed_le_limit reached.sound distinct source minute passed

def guestKey : ApiKey :=
  ⟨⟨1⟩, ⟨2⟩, "portal", "pk_1", "", 1, [], none, none, none, ⟨3⟩⟩

/-- Two requests in a minute. -/
def guestRun : Option (State Request Source (List Char)) :=
  replay (State.step limiter) (State.timely limiter · 0) ⟨⟨119, fun _ => none⟩, fun _ => none⟩
    [.begin 0 (.checkRateLimit guestKey) 119, .incr 0 .applied, .expire 0 .applied,
      .begin 1 (.checkRateLimit guestKey) 119, .incr 1 .applied]

theorem guestRun_reached : ∃ state, guestRun = some state ∧ Reached limiter 0 119 state := by
  obtain ⟨state, ran⟩ := Option.isSome_iff_exists.mp (by decide : guestRun.isSome = true)
  exact ⟨state, ran, history_replay (fun _ _ met => met) _ ran⟩

theorem limit_per_minute_guest : ∃ state, Reached limiter 0 119 state ∧ [0].length ≤ 1 := by
  obtain ⟨state, ran, reached⟩ := guestRun_reached
  have first : (guestRun.bind fun state => state.requests 0) =
      some (⟨.checkRateLimit guestKey, .key ⟨1⟩, 119⟩, .passed 1) := by decide
  rw [ran] at first
  refine ⟨state, reached, limit_per_minute reached (by decide) (.key ⟨1⟩) 1 fun i member => ?_⟩
  cases List.mem_singleton.mp member
  exact ⟨_, ⟨1, first, by decide⟩, rfl, by decide⟩

theorem refused_beyond_limit (reached : Reached limiter skew now state) {i : Nat}
    {ticket : Ticket Request Source} {stage : Stage} {error : RateLimitError}
    (found : state.requests i = some (ticket, stage))
    (refused : outcome ticket.request stage = some (.error error)) :
    error = ticket.request.refusal ∧ ∃ ids : List Nat, ids.Nodup ∧
      ticket.request.limit < ids.length ∧ ∀ j ∈ ids, ∃ other sent,
        state.requests j = some (other, sent) ∧ sent.sent = true ∧
        other.source = ticket.source ∧ other.reading / 60 = ticket.reading / 60 := by
  cases stage with
  | refused count =>
      cases refused
      exact ⟨rfl, refused_above reached.sound found⟩
  | _ => cases refused

theorem refused_beyond_limit_guest : ∃ state, Reached limiter 0 119 state ∧
    ∃ ids : List Nat, ids.Nodup ∧ (1 : Int) < ids.length := by
  obtain ⟨state, ran, reached⟩ := guestRun_reached
  have second : (guestRun.bind fun state => state.requests 1) =
      some (⟨.checkRateLimit guestKey, .key ⟨1⟩, 119⟩, .refused 2) := by decide
  rw [ran] at second
  obtain ⟨_, ids, distinct, above, _⟩ := refused_beyond_limit reached second rfl
  exact ⟨state, reached, ids, distinct, above⟩

end AiPlatform.RateLimits
