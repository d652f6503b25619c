import AiPlatform.Histories
import Mathlib.Data.Int.Basic
import Mathlib.Data.List.Nodup
import Mathlib.Data.List.Perm.Subperm

/-!
Limits by fixed windows. A request reads the clock of its host, adds one to the
counter of its source and window, gives the counter a time to live when it made
it, and is let through unless its count is above its limit. The counters are in
a store that forgets what has expired. Any number of requests interleave, and
the store can fail before or after it applies an operation; a request that meets
a failure is let through without a count, and one without a source at once.
-/

namespace AiPlatform.FixedWindows

structure Counter where
  value : Nat
  expires : Option Nat
  deriving DecidableEq

structure Store (κ : Type) where
  now : Nat
  counters : κ → Option Counter

variable {ρ σ κ : Type}

namespace Store

def live (store : Store κ) (key : κ) : Option Counter :=
  (store.counters key).filter fun counter => counter.expires.all fun time => store.now < time

variable [DecidableEq κ]

def put (store : Store κ) (key : κ) (counter : Counter) : Store κ :=
  { store with counters := fun other => if other = key then some counter else store.counters other }

/-- What `INCR` leaves of the counter. -/
def raised (store : Store κ) (key : κ) : Counter :=
  match store.live key with
  | some counter => { counter with value := counter.value + 1 }
  | none => ⟨1, none⟩

def incr (store : Store κ) (key : κ) : Store κ := store.put key (store.raised key)

def expire (store : Store κ) (key : κ) (seconds : Nat) : Store κ :=
  match store.live key with
  | some counter => store.put key { counter with expires := some (store.now + seconds) }
  | none => store

end Store

structure Limiter (ρ σ κ : Type) where
  span : Nat
  life : Nat
  source : ρ → Option σ
  limit : ρ → Int
  bucket : σ → Nat → κ
  separate : ∀ {source other : σ} {window later : Nat},
    bucket source window = bucket other later → source = other ∧ window = later

structure Ticket (ρ σ : Type) where
  request : ρ
  source : σ
  reading : Nat
  deriving DecidableEq

inductive Stage
  | counting | marking | passed (count : Nat) | refused (count : Nat) | unlimited
  deriving DecidableEq

namespace Stage

def count? : Stage → Option Nat
  | .marking => some 1
  | .passed count | .refused count => some count
  | _ => none

/-- Its `INCR` was sent. -/
def sent (stage : Stage) : Bool := stage ≠ .counting

end Stage

/-- What becomes of an operation: it is applied, applied without a reply, or not applied. -/
inductive Fate
  | applied | lost | failed
  deriving DecidableEq

structure State (ρ σ κ : Type) where
  store : Store κ
  requests : Nat → Option (Ticket ρ σ × Stage)

inductive Label (ρ : Type)
  | tick (seconds : Nat)
  | begin (i : Nat) (request : ρ) (reading : Nat)
  | incr (i : Nat) (fate : Fate)
  | expire (i : Nat) (fate : Fate)

namespace Limiter

variable (limiter : Limiter ρ σ κ) (ticket : Ticket ρ σ)

def window : Nat := ticket.reading / limiter.span

def key : κ := limiter.bucket ticket.source (limiter.window ticket)

def settled (count : Nat) : Stage :=
  if (count : Int) > limiter.limit ticket.request then .refused count else .passed count

/-- What follows the reply to `INCR`. -/
def counted (count : Nat) : Stage :=
  if count = 1 then .marking else limiter.settled ticket count

def judged : Stage → Prop
  | .passed count => (count : Int) ≤ limiter.limit ticket.request
  | .refused count => limiter.limit ticket.request < count
  | _ => True

end Limiter

namespace State

variable [DecidableEq κ] (limiter : Limiter ρ σ κ) (state : State ρ σ κ)

def put (i : Nat) (ticket : Ticket ρ σ) (stage : Stage) (store : Store κ) : State ρ σ κ :=
  { store := store
    requests := fun j => if j = i then some (ticket, stage) else state.requests j }

def step : Label ρ → Option (State ρ σ κ)
  | .tick seconds =>
      some { state with store := { state.store with now := state.store.now + seconds } }
  | .begin i request reading =>
      match state.requests i, limiter.source request with
      | none, some source => some (state.put i ⟨request, source, reading⟩ .counting state.store)
      | _, _ => none
  | .incr i fate =>
      match state.requests i with
      | some (ticket, .counting) =>
          let key := limiter.key ticket
          match fate with
          | .applied => some (state.put i ticket
              (limiter.counted ticket (state.store.raised key).value) (state.store.incr key))
          | .lost => some (state.put i ticket .unlimited (state.store.incr key))
          | .failed => some (state.put i ticket .unlimited state.store)
      | _ => none
  | .expire i fate =>
      match state.requests i with
      | some (ticket, .marking) =>
          let store := state.store.expire (limiter.key ticket) limiter.life
          match fate with
          | .applied => some (state.put i ticket (limiter.settled ticket 1) store)
          | .lost => some (state.put i ticket .unlimited store)
          | .failed => some (state.put i ticket .unlimited state.store)
      | _ => none

/-- The host's clock is at most `skew` ahead of the store's, and an `INCR` comes before the
first counter of its window can have expired. -/
def timely (skew : Nat) : Label ρ → Bool
  | .begin _ _ reading => reading ≤ state.store.now + skew
  | .incr i .applied | .incr i .lost =>
      match state.requests i with
      | some (ticket, .counting) =>
          state.store.now + skew < limiter.span * limiter.window ticket + limiter.life
      | _ => true
  | _ => true

end State

section Invariants

variable {limiter : Limiter ρ σ κ} {state : State ρ σ κ} {skew i : Nat} {ticket : Ticket ρ σ}
  {stage : Stage}

theorem settled_spec (count : Nat) : (limiter.settled ticket count).count? = some count ∧
    (limiter.settled ticket count).sent = true ∧
    limiter.judged ticket (limiter.settled ticket count) := by
  unfold Limiter.settled
  split
  · rename_i above
    exact ⟨rfl, rfl, above⟩
  · rename_i low
    exact ⟨rfl, rfl, Int.not_lt.mp low⟩

theorem counted_spec (count : Nat) : (limiter.counted ticket count).count? = some count ∧
    (limiter.counted ticket count).sent = true ∧
    limiter.judged ticket (limiter.counted ticket count) := by
  unfold Limiter.counted
  split
  · rename_i first
    subst first
    exact ⟨rfl, rfl, trivial⟩
  · exact settled_spec count

def Store.value (store : Store κ) (key : κ) : Nat := (store.counters key).elim 0 Counter.value

namespace State

/-- The request `i` was told `count` for the counter of its ticket. -/
def Holds (state : State ρ σ κ) (i : Nat) (ticket : Ticket ρ σ) (count : Nat) : Prop :=
  ∃ stage, state.requests i = some (ticket, stage) ∧ stage.count? = some count

def Sent (limiter : Limiter ρ σ κ) (state : State ρ σ κ) (key : κ) (i : Nat) : Prop :=
  ∃ ticket stage, state.requests i = some (ticket, stage) ∧ stage.sent = true ∧
    limiter.key ticket = key

end State

/-- The requests that a counter has counted, in their order: who was told a count is in its
place. -/
structure Queue (limiter : Limiter ρ σ κ) (state : State ρ σ κ) (key : κ) (ids : List Nat) :
    Prop where
  nodup : ids.Nodup
  length : ids.length = state.store.value key
  sent : ∀ i ∈ ids, state.Sent limiter key i
  told : ∀ {i ticket count}, state.Holds i ticket count → limiter.key ticket = key →
    0 < count ∧ ids[count - 1]? = some i

def Store.Keeps (limiter : Limiter ρ σ κ) (skew : Nat) (store : Store κ) : Prop :=
  ∀ {source window counter time}, store.counters (limiter.bucket source window) = some counter →
    counter.expires = some time → limiter.span * window + limiter.life ≤ time + skew

structure Sound (limiter : Limiter ρ σ κ) (skew : Nat) (state : State ρ σ κ) : Prop where
  begun : ∀ {i ticket stage}, state.requests i = some (ticket, stage) →
    ticket.reading ≤ state.store.now + skew ∧ limiter.judged ticket stage
  kept : state.store.Keeps limiter skew
  queued : ∀ key, ∃ ids, Queue limiter state key ids

theorem put_self (store : Store κ) :
    (state.put i ticket stage store).requests i = some (ticket, stage) := if_pos rfl

theorem put_other {j : Nat} (other : j ≠ i) (store : Store κ) :
    (state.put i ticket stage store).requests j = state.requests j := if_neg other

theorem holds_put {j count : Nat} {store : Store κ} {other : Ticket ρ σ}
    (holds : (state.put i ticket stage store).Holds j other count) :
    (j = i ∧ other = ticket ∧ stage.count? = some count) ∨ state.Holds j other count := by
  obtain ⟨found, present, counts⟩ := holds
  by_cases self : j = i
  · subst self
    cases (put_self store).symm.trans present
    exact .inl ⟨rfl, rfl, counts⟩
  · exact .inr ⟨found, (put_other self store).symm.trans present, counts⟩

/-- A request that was there goes on, and what was sent stays sent. -/
theorem sent_put {store : Store κ} {key : κ} {before : Stage}
    (found : state.requests i = some (ticket, before)) (sent : before.sent → stage.sent)
    (j : Nat) (gone : state.Sent limiter key j) :
    (state.put i ticket stage store).Sent limiter key j := by
  obtain ⟨other, was, present, before_sent, same⟩ := gone
  by_cases self : j = i
  · subst self
    cases found.symm.trans present
    exact ⟨ticket, stage, put_self store, sent before_sent, same⟩
  · exact ⟨other, was, (put_other self store).trans present, before_sent, same⟩

theorem Sound.put {store : Store κ} (sound : Sound limiter skew state)
    (now : store.now = state.store.now) (reading : ticket.reading ≤ state.store.now + skew)
    (judged : limiter.judged ticket stage) (kept : store.Keeps limiter skew)
    (queued : ∀ key, ∃ ids, Queue limiter (state.put i ticket stage store) key ids) :
    Sound limiter skew (state.put i ticket stage store) := by
  refine ⟨fun {j other found} present => ?_, kept, queued⟩
  change other.reading ≤ store.now + skew ∧ _
  rw [now]
  by_cases self : j = i
  · subst self
    cases (put_self store).symm.trans present
    exact ⟨reading, judged⟩
  · exact sound.begun ((put_other self store).symm.trans present)

/-- A request that is told nothing new leaves the queues. -/
theorem Queue.quiet {store : Store κ} {key : κ} {ids : List Nat} {before : Stage}
    (queue : Queue limiter state key ids) (same : store.value key = state.store.value key)
    (found : state.requests i = some (ticket, before)) (sent : before.sent → stage.sent)
    (silent : ∀ count, stage.count? = some count → before.count? = some count) :
    Queue limiter (state.put i ticket stage store) key ids where
  nodup := queue.nodup
  length := queue.length.trans same.symm
  sent j member := sent_put found sent j (queue.sent j member)
  told holds at_key := by
    rcases holds_put holds with ⟨rfl, rfl, told⟩ | old
    · exact queue.told ⟨before, found, silent _ told⟩ at_key
    · exact queue.told old at_key

theorem Sound.fail {before : Stage} (sound : Sound limiter skew state)
    (found : state.requests i = some (ticket, before)) :
    Sound limiter skew (state.put i ticket .unlimited state.store) := by
  refine sound.put rfl (sound.begun found).1 trivial sound.kept fun key => ?_
  obtain ⟨ids, queue⟩ := sound.queued key
  exact ⟨ids, queue.quiet rfl found (fun _ => rfl) fun _ told => by cases told⟩

theorem Sound.begin (sound : Sound limiter skew state) (fresh : state.requests i = none)
    (reading : ticket.reading ≤ state.store.now + skew) :
    Sound limiter skew (state.put i ticket .counting state.store) := by
  refine sound.put rfl reading trivial sound.kept fun key => ?_
  obtain ⟨ids, queue⟩ := sound.queued key
  refine ⟨ids, queue.nodup, queue.length, fun j member => ?_, fun holds at_key => ?_⟩
  · obtain ⟨other, was, present, gone⟩ := queue.sent j member
    refine ⟨other, was, (put_other (fun self => ?_) _).trans present, gone⟩
    rw [self, fresh] at present
    cases present
  · rcases holds_put holds with ⟨_, _, told⟩ | old
    · cases told
    · exact queue.told old at_key

/-- Before the first counter of a window can have expired, `INCR` goes on with the counter. -/
theorem raised_counter (sound : Sound limiter skew state)
    (soon : state.store.now + skew < limiter.span * limiter.window ticket + limiter.life) :
    (state.store.raised (limiter.key ticket)).value = state.store.value (limiter.key ticket) + 1 ∧
      ∀ time, (state.store.raised (limiter.key ticket)).expires = some time →
        limiter.span * limiter.window ticket + limiter.life ≤ time + skew := by
  unfold Store.raised Store.value Store.live
  cases found : state.store.counters (limiter.key ticket) with
  | none => exact ⟨rfl, fun time expires => by cases expires⟩
  | some counter =>
      have alive : counter.expires.all (fun time => state.store.now < time) = true := by
        cases expires : counter.expires with
        | none => rfl
        | some time =>
            have := sound.kept found expires
            exact decide_eq_true (by omega)
      rw [Option.filter_some, if_pos alive]
      exact ⟨rfl, fun time expires => sound.kept found expires⟩

variable [DecidableEq κ]

theorem value_put (store : Store κ) (key other : κ) (counter : Counter) :
    (store.put key counter).value other =
      if other = key then counter.value else store.value other := by
  unfold Store.value Store.put
  dsimp only
  split <;> rfl

theorem expire_spec (store : Store κ) (key : κ) (seconds : Nat) :
    (store.expire key seconds).now = store.now ∧
      (∀ other, (store.expire key seconds).value other = store.value other) ∧
      ∀ other marked, (store.expire key seconds).counters other = some marked →
        store.counters other = some marked ∨
          other = key ∧ marked.expires = some (store.now + seconds) := by
  unfold Store.expire
  split
  · rename_i counter live
    have present : store.counters key = some counter := (Option.filter_eq_some_iff.mp live).1
    refine ⟨rfl, fun other => ?_, fun other marked found => ?_⟩
    · rw [value_put]
      split
      · rename_i self
        rw [self, Store.value, present]
        rfl
      · rfl
    · by_cases self : other = key
      · cases (if_pos self).symm.trans found
        exact .inr ⟨self, rfl⟩
      · exact .inl ((if_neg self).symm.trans found)
  · exact ⟨rfl, fun _ => rfl, fun _ _ found => .inl found⟩

theorem Sound.incr (sound : Sound limiter skew state)
    (found : state.requests i = some (ticket, .counting))
    (soon : state.store.now + skew < limiter.span * limiter.window ticket + limiter.life)
    (sent : stage.sent = true) (judged : limiter.judged ticket stage)
    (counts : ∀ count, stage.count? = some count →
      count = (state.store.raised (limiter.key ticket)).value) :
    Sound limiter skew (state.put i ticket stage (state.store.incr (limiter.key ticket))) := by
  obtain ⟨value, times⟩ := raised_counter sound soon
  have stays {key : κ} := @sent_put _ _ _ limiter state i ticket stage
    (state.store.incr (limiter.key ticket)) key _ found fun _ => sent
  refine sound.put rfl (sound.begun found).1 judged (fun {source window counter time} present
    expires => ?_) fun key => ?_
  · by_cases self : limiter.bucket source window = limiter.key ticket
    · cases (if_pos self).symm.trans present
      rw [(limiter.separate self).2]
      exact times time expires
    · exact sound.kept ((if_neg self).symm.trans present) expires
  · obtain ⟨ids, queue⟩ := sound.queued key
    by_cases self : key = limiter.key ticket
    · have new : i ∉ ids := by
        intro member
        obtain ⟨_, _, present, gone, _⟩ := queue.sent i member
        cases found.symm.trans present
        cases gone
      subst self
      -- Who is counted takes the last place of its queue.
      refine ⟨ids ++ [i], ?_, ?_, fun j member => ?_, fun {j other count} holds at_key => ?_⟩
      · refine List.nodup_append.mpr ⟨queue.nodup, by simp, fun a old b last => ?_⟩
        rw [List.mem_singleton.mp last]
        exact fun equal => new (equal ▸ old)
      · change _ = (state.store.put _ _).value _
        rw [value_put, if_pos rfl, value, List.length_append, queue.length]
        rfl
      · rcases List.mem_append.mp member with old | last
        · exact stays j (queue.sent j old)
        · rw [List.mem_singleton.mp last]
          exact ⟨ticket, stage, put_self _, sent, rfl⟩
      · rcases holds_put holds with ⟨rfl, rfl, told⟩ | old
        · rw [counts count told, value, ← queue.length]
          exact ⟨Nat.succ_pos _, by simp⟩
        · obtain ⟨positive, place⟩ := queue.told old at_key
          have inside := (List.getElem?_eq_some_iff.mp place).1
          exact ⟨positive, (List.getElem?_append_left inside).trans place⟩
    · refine ⟨ids, queue.nodup, ?_, fun j member => stays j (queue.sent j member),
        fun holds at_key => ?_⟩
      · change _ = (state.store.put _ _).value _
        rw [value_put, if_neg self, queue.length]
      · rcases holds_put holds with ⟨_, rfl, _⟩ | old
        · exact absurd at_key.symm self
        · exact queue.told old at_key

theorem Sound.expire (sound : Sound limiter skew state)
    (found : state.requests i = some (ticket, .marking)) (sent : stage.sent = true)
    (judged : limiter.judged ticket stage) (counts : ∀ count, stage.count? = some count →
      count = 1) : Sound limiter skew
        (state.put i ticket stage (state.store.expire (limiter.key ticket) limiter.life)) := by
  obtain ⟨now, values, times⟩ := expire_spec state.store (limiter.key ticket) limiter.life
  have read := (sound.begun found).1
  refine sound.put now read judged (fun present expires => ?_) fun key => ?_
  · rcases times _ _ present with old | ⟨self, marked⟩
    · exact sound.kept old expires
    · cases expires.symm.trans marked
      rw [(limiter.separate self).2]
      have start : limiter.span * (ticket.reading / limiter.span) ≤ ticket.reading :=
        Nat.mul_div_le _ _
      simp only [Limiter.window]
      omega
  · obtain ⟨ids, queue⟩ := sound.queued key
    exact ⟨ids, queue.quiet (values key) found (fun _ => sent) fun count told =>
      congrArg some (counts count told).symm⟩

theorem Sound.step {after : State ρ σ κ} {label : Label ρ} (sound : Sound limiter skew state)
    (timely : state.timely limiter skew label = true)
    (stepped : state.step limiter label = some after) : Sound limiter skew after := by
  cases label with
  | tick seconds =>
      cases stepped
      refine ⟨fun present => ⟨?_, (sound.begun present).2⟩, sound.kept, fun key => ?_⟩
      · have := (sound.begun present).1
        change _ ≤ state.store.now + seconds + skew
        omega
      · obtain ⟨ids, queue⟩ := sound.queued key
        exact ⟨ids, queue.nodup, queue.length, queue.sent, queue.told⟩
  | begin i request reading =>
      simp only [State.step] at stepped
      split at stepped
      · rename_i fresh _
        cases stepped
        exact sound.begin fresh (of_decide_eq_true timely)
      · cases stepped
  | incr i fate =>
      simp only [State.step] at stepped
      split at stepped
      · rename_i ticket found
        cases fate with
        | failed =>
            cases stepped
            exact sound.fail found
        | lost =>
            simp only [State.timely, found] at timely
            cases stepped
            exact sound.incr found (of_decide_eq_true timely) rfl trivial
              fun _ told => by cases told
        | applied =>
            simp only [State.timely, found] at timely
            cases stepped
            obtain ⟨count, sent, judged⟩ := @counted_spec _ _ _ limiter ticket
              (state.store.raised (limiter.key ticket)).value
            exact sound.incr found (of_decide_eq_true timely) sent judged
              fun _ told => Option.some.inj (told.symm.trans count)
      · cases stepped
  | expire i fate =>
      simp only [State.step] at stepped
      split at stepped
      · rename_i ticket found
        cases fate with
        | failed =>
            cases stepped
            exact sound.fail found
        | lost =>
            cases stepped
            exact sound.expire found rfl trivial fun _ told => by cases told
        | applied =>
            cases stepped
            obtain ⟨count, sent, judged⟩ := @settled_spec _ _ _ limiter ticket 1
            exact sound.expire found sent judged
              fun _ told => Option.some.inj (told.symm.trans count)
      · cases stepped

/-- A run that starts without counters and meets the condition at every step. -/
def Reached (limiter : Limiter ρ σ κ) (skew now : Nat) (state : State ρ σ κ) : Prop :=
  History (State.step limiter) (fun state label => state.timely limiter skew label = true)
    ⟨⟨now, fun _ => none⟩, fun _ => none⟩ state

theorem Reached.sound {now : Nat} (reached : Reached limiter skew now state) :
    Sound limiter skew state := by
  refine History.keeps _ ?_ (fun _ _ _ timely stepped sound => sound.step timely stepped) reached
  refine ⟨fun found => (by cases found), fun found => (by cases found), fun key =>
    ⟨[], List.nodup_nil, rfl, fun _ member => (by cases member), fun holds => ?_⟩⟩
  obtain ⟨_, found, _⟩ := holds
  cases found

end Invariants

section Bounds

variable {limiter : Limiter ρ σ κ} {state : State ρ σ κ} {skew limit : Nat}

/-- The request `i` was let through by a count, under a limit of at most `limit`. -/
def State.Passed (limiter : Limiter ρ σ κ) (state : State ρ σ κ) (limit : Nat) (i : Nat)
    (ticket : Ticket ρ σ) : Prop :=
  ∃ count, state.requests i = some (ticket, .passed count) ∧
    limiter.limit ticket.request ≤ limit

theorem passed_le_limit (sound : Sound limiter skew state) {ids : List Nat} (nodup : ids.Nodup)
    (source : σ) (window : Nat)
    (passed : ∀ i ∈ ids, ∃ ticket, state.Passed limiter limit i ticket ∧
      ticket.source = source ∧ limiter.window ticket = window) : ids.length ≤ limit := by
  obtain ⟨queue, queued⟩ := sound.queued (limiter.bucket source window)
  have front : ids ⊆ queue.take limit := by
    intro i member
    obtain ⟨ticket, ⟨count, found, low⟩, rfl, rfl⟩ := passed i member
    obtain ⟨positive, place⟩ := queued.told ⟨_, found, rfl⟩ rfl
    have below : (count : Int) ≤ limiter.limit ticket.request := (sound.begun found).2
    refine List.mem_of_getElem? (i := count - 1) ?_
    rw [List.getElem?_take_of_lt (by omega), place]
  calc ids.length ≤ (queue.take limit).length := (List.subperm_of_subset nodup front).length_le
    _ ≤ limit := List.length_take_le _ _

theorem refused_above (sound : Sound limiter skew state) {i count : Nat} {ticket : Ticket ρ σ}
    (refused : state.requests i = some (ticket, .refused count)) :
    ∃ ids : List Nat, ids.Nodup ∧ limiter.limit ticket.request < ids.length ∧
      ∀ j ∈ ids, ∃ other stage, state.requests j = some (other, stage) ∧ stage.sent = true ∧
        other.source = ticket.source ∧ limiter.window other = limiter.window ticket := by
  obtain ⟨ids, queue⟩ := sound.queued (limiter.key ticket)
  obtain ⟨_, place⟩ := queue.told ⟨_, refused, rfl⟩ rfl
  have inside := (List.getElem?_eq_some_iff.mp place).1
  have above : limiter.limit ticket.request < count := (sound.begun refused).2
  refine ⟨ids, queue.nodup, by omega, fun j member => ?_⟩
  obtain ⟨other, stage, found, gone, key⟩ := queue.sent j member
  obtain ⟨source, window⟩ := limiter.separate key
  exact ⟨other, stage, found, gone, source, window⟩

end Bounds

end AiPlatform.FixedWindows
