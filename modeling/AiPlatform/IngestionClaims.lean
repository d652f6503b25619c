import AiPlatform.Duplicates

/-!
What becomes of documents along every schedule of uploads, ingestion passes and
deletions, whatever fails: `claim_next_pending` gives a document to one pass at a
time, and a committed document keeps its content and never comes back, neither
from its deletion nor from a failure.
-/

namespace AiPlatform.Knowledge

/-- Each document whose upload was committed before comes from one of the same content, and
has failed if that one had. -/
structure Ages (before after : Shared) : Prop where
  uploaded : ∀ id ∈ before.uploaded, id ∈ after.uploaded
  rows : ∀ row ∈ after.documents, row.id ∈ before.uploaded → ∃ old ∈ before.documents,
    old.id = row.id ∧ old.original = row.original ∧
      (row.status ≠ .failed → old.status ≠ .failed)

structure Booked (shared : Shared) : Prop where
  drawn : (shared.drawn.map Prod.fst).Nodup
  uploaded : ∀ id ∈ shared.uploaded, id ∈ shared.drawn.map Prod.fst
  distinct : (shared.documents.map Document.id).Nodup

/-- The session was the first to draw its ids, and has uploaded nothing under them. -/
def Fresh (i : Nat) (session : Session) (shared : Shared) : Prop :=
  ∀ id ∈ session.drawn, (id, i) ∈ shared.drawn ∧ id ∉ shared.uploaded

structure Moves (i : Nat) (before after : Shared) : Prop where
  booked : Booked after
  ages : Ages before after
  others : ∀ j other, j ≠ i → Fresh j other before → Fresh j other after

section Steps

variable {i : Nat} {session : Session} {start shared next : Shared} {op : Op} {reply : Reply op}

theorem Ages.trans (first : Ages start shared) (second : Ages shared next) : Ages start next where
  uploaded id member := second.uploaded id (first.uploaded id member)
  rows row member known := by
    obtain ⟨middle, stored, keyed, content, standing⟩ :=
      second.rows row member (first.uploaded _ known)
    obtain ⟨old, listed, keyed', content', standing'⟩ :=
      first.rows middle stored (keyed ▸ known)
    exact ⟨old, listed, keyed'.trans keyed, content'.trans content,
      fun alive => standing' (standing alive)⟩

theorem moves_same (booked : Booked shared) (drawn : next.drawn = shared.drawn)
    (uploaded : next.uploaded = shared.uploaded)
    (descends : Descends shared.documents next.documents) : Moves i shared next where
  booked := ⟨drawn ▸ booked.drawn, by rw [drawn, uploaded]; exact booked.uploaded,
    booked.distinct.sublist descends.ids⟩
  ages := ⟨fun _ member => uploaded ▸ member, fun row member _ => descends.rows row member⟩
  others _ _ _ fresh := by rwa [Fresh, drawn, uploaded]

theorem Commits.moves (commits : Commits i session shared next) (own : Claims i session shared)
    (fresh : Fresh i session shared) (booked : Booked shared)
    (drawn : next.drawn = shared.drawn) : Moves i shared next := by
  have descends := commits.descends own booked.distinct
  have short (shorter : next.documents.length ≤ shared.documents.length) :
      Descends shared.documents next.documents := by
    rcases descends with descends | ⟨_, _, _, _, same⟩
    · exact descends
    · rw [same, List.length_append] at shorter
      exact absurd shorter (by simp)
  cases commits with
  | keeps documents uploaded => exact moves_same booked drawn uploaded (short (by rw [documents]))
  | concludes row document claimed keeps begun settles documents uploaded =>
      exact moves_same booked drawn uploaded (short (by rw [documents]; simp [Rows.amend]))
  | removes leaves free documents uploaded =>
      exact moves_same booked drawn uploaded
        (short (by rw [documents]; exact List.length_filter_le _ _))
  | inserts document claimed checked mine status new documents uploaded =>
      obtain ⟨first, absent⟩ := fresh document.id mine
      refine ⟨⟨drawn ▸ booked.drawn, fun id member => ?_, ?_⟩, ⟨fun id member => ?_,
        fun row member known => ?_⟩, fun j other different theirs id listed => ?_⟩
      · rw [drawn]
        rw [uploaded] at member
        rcases List.mem_append.mp member with old | last
        · exact booked.uploaded id old
        · exact List.mem_map.mpr ⟨_, first, (List.mem_singleton.mp last).symm⟩
      · exact documents ▸ distinct_concat Document.id booked.distinct new
      · exact uploaded ▸ List.mem_append_left _ member
      · rw [documents] at member
        rcases List.mem_append.mp member with old | last
        · exact ⟨row, old, rfl, rfl, id⟩
        · rw [List.mem_singleton.mp last] at known
          exact absurd known absent
      · obtain ⟨second, unknown⟩ := theirs id listed
        rw [drawn, uploaded]
        refine ⟨second, fun member => ?_⟩
        rcases List.mem_append.mp member with old | last
        · exact unknown old
        · rw [List.mem_singleton.mp last] at second
          have same := List.inj_on_of_nodup_map booked.drawn first second rfl
          exact different (Prod.mk.inj same).2.symm

theorem after_drawn (no_draw : ∀ count, op ≠ .draw count) :
    (session.after op reply).drawn = session.drawn := by
  cases op with
  | draw count => exact absurd rfl (no_draw count)
  | claimNextPending | findDuplicate | getWithBase => cases reply <;> rfl
  | commit | save | deleteChunks | insertChunks => cases reply <;> rfl
  | readAgain =>
      cases reply with
      | error failure => rfl
      | ok found => cases found <;> rfl
  | _ => rfl

theorem draws_moves (booked : Booked shared) (own : Fresh i session shared) {ids : List Uuid}
    (distinct : ids.Nodup) (fresh : ∀ id ∈ ids, ∀ used ∈ shared.drawn, used.1 ≠ id) :
    Moves i shared { shared with drawn := shared.drawn ++ ids.map fun id => (id, i) } ∧
      Fresh i (session.drawing ids)
        { shared with drawn := shared.drawn ++ ids.map fun id => (id, i) } := by
  have unknown : ∀ id ∈ ids, id ∉ shared.drawn.map Prod.fst := by
    intro id member known
    obtain ⟨used, listed, same⟩ := List.mem_map.mp known
    exact fresh id member used listed same
  refine ⟨⟨⟨?_, fun id member => ?_, booked.distinct⟩,
    ⟨fun _ member => member, fun row member _ => ⟨row, member, rfl, rfl, id⟩⟩,
    fun j other _ theirs id member => ?_⟩, fun id member => ?_⟩
  · simp only [List.map_append, List.map_map, Function.comp_def, List.map_id']
    exact List.nodup_append.mpr ⟨booked.drawn, distinct, fun known old id new same =>
      unknown id new (same ▸ old)⟩
  · rw [List.map_append]
    exact List.mem_append_left _ (booked.uploaded id member)
  · exact ⟨List.mem_append_left _ (theirs id member).1, (theirs id member).2⟩
  · rcases List.mem_append.mp member with old | new
    · exact ⟨List.mem_append_left _ (own id old).1, (own id old).2⟩
    · exact ⟨List.mem_append_right _ (List.mem_map.mpr ⟨id, new, rfl⟩),
        fun used => unknown id new (booked.uploaded id used)⟩

theorem commit_drawn (committed : shared.commit i session = some next) :
    next.drawn = shared.drawn := by
  obtain ⟨wrote, found, rfl⟩ := Option.map_eq_some_iff.mp committed
  change wrote.drawn = shared.drawn
  exact Shared.writeAll_same Shared.drawn (fun _ write => by cases write <;> rfl) found

theorem effect_moves (permitted : session.Permits op) (own : Claims i session shared)
    (fresh : Fresh i session shared) (booked : Booked shared)
    (effect : Effect i session shared op reply next) :
    Moves i shared next ∧ Fresh i (session.after op reply) next := by
  have descends := effect_descends permitted own booked.distinct effect
  have kept (drawn : next.drawn = shared.drawn) (uploaded : next.uploaded = shared.uploaded)
      (no_draw : ∀ count, op ≠ .draw count) :
      Moves i shared next ∧ Fresh i (session.after op reply) next := by
    refine ⟨moves_same booked drawn uploaded descends, ?_⟩
    rwa [Fresh, after_drawn no_draw, drawn, uploaded]
  have concluded {after : Shared} (permitted : session.Permits .commit)
      (committed : shared.commit i session = some after) :
      after.drawn = shared.drawn ∧ after.uploaded = shared.uploaded := by
    obtain ⟨row, ends⟩ := permitted
    obtain ⟨_, _, _, commits⟩ := commit_closes (.inr ⟨row, ends⟩) committed
    refine ⟨commit_drawn committed, ?_⟩
    cases commits with
    | inserts document claimed => exact absurd (ends.claimed.symm.trans claimed) (by simp)
    | keeps _ uploaded | concludes _ _ _ _ _ _ _ uploaded | removes _ _ _ uploaded =>
        exact uploaded
  cases effect with
  | draws count ids length distinct unused => exact draws_moves booked fresh distinct unused
  | quiet _ _ quiet => exact kept rfl rfl fun _ same => by subst same; cases quiet
  | stores _ _ _ stores => exact kept rfl rfl fun _ same => by subst same; exact stores.elim
  | places _ _ _ places => exact kept rfl rfl fun _ same => by subst same; exact places.elim
  | commits after committed =>
      obtain ⟨drawn, uploaded⟩ := concluded permitted committed
      exact kept drawn uploaded fun _ same => by cases same
  | commitLost failure after committed =>
      obtain ⟨drawn, uploaded⟩ := concluded permitted committed
      exact kept drawn uploaded fun _ same => by cases same
  | _ => exact kept rfl rfl fun _ same => by cases same

end Steps

def ageing (settings : Settings) (start : Shared) :
    Invariant (knowledgeDiscipline settings) (fun _ _ => True) (fun _ => True) where
  shared shared := Booked shared ∧ Ages start shared
  session i session shared := Claims i session shared ∧ Fresh i session shared
  begins _ _ _ _ _ _ := ⟨claims_none rfl _, fun _ member => by cases member⟩
  performs system i answer op session reply after _ _ _ permitted holds own reacts := by
    have change : Effect i session system.shared op reply after := effect reacts
    obtain ⟨moves, fresh⟩ := effect_moves permitted own.1 own.2 holds.1 change
    exact ⟨⟨moves.booked, holds.2.trans moves.ages⟩, ⟨own.1.own permitted change, fresh⟩,
      fun j other different _ held => ⟨held.1.effect own.1 permitted different change,
        moves.others j other different held.2⟩⟩
  commits system i session after _ _ _ ends holds own committed := by
    obtain ⟨_, _, _, commits⟩ := commit_closes (.inl ends) committed
    have moves := commits.moves own.1 own.2 holds.1 (commit_drawn committed)
    exact ⟨⟨moves.booked, holds.2.trans moves.ages⟩, fun j other different _ held =>
      ⟨held.1.committed own.1 commits (commit_locks committed) different,
        moves.others j other different held.2⟩⟩
  aborts system i session _ _ _ holds _ :=
    ⟨⟨⟨holds.1.drawn, holds.1.uploaded, holds.1.distinct⟩, ⟨holds.2.uploaded, holds.2.rows⟩⟩,
      fun j other different _ held => ⟨(held.1.closed different).same rfl rfl, held.2⟩⟩
  changes _ edit _ _ _ := by cases edit

theorem ageing_reached {settings : Settings} {system : KnowledgeSystem settings}
    (reached : System.Reaches (fun _ _ => True) (emptyStores settings) system) :
    (ageing settings .empty).Holds system := by
  have empty : Booked Shared.empty :=
    ⟨List.nodup_nil, fun _ member => (by cases member), List.nodup_nil⟩
  exact (ageing settings .empty).reached (fun _ => rfl)
    ⟨empty, fun _ member => (by cases member), fun _ member => (by cases member)⟩
    (fun _ _ => trivial) system reached

/-- What is deleted stays deleted, what has failed stays failed, and no content changes. -/
theorem documents_age (settings : Settings) (system later : KnowledgeSystem settings)
    (reached : System.Reaches (fun _ _ => True) (emptyStores settings) system)
    (goes_on : System.Reaches (fun _ _ => True) system later) :
    Ages system.shared later.shared := by
  obtain ⟨holds, sessions⟩ := ageing_reached reached
  have start : (ageing settings system.shared).Holds system :=
    ⟨⟨holds.1, fun _ member => member, fun row member _ => ⟨row, member, rfl, rfl, id⟩⟩, sessions⟩
  refine (System.reaches_induction (ageing settings system.shared).Holds start ?_ later
    goes_on).1.2
  intro middle label next before ages _ transition
  exact (ageing settings system.shared).preserved ((knowledgeDiscipline settings).kept_reached
    (fun _ => rfl) middle (reached.trans before)) trivial ages trivial transition

theorem documents_age_failed : ∃ system later : KnowledgeSystem site,
    system.shared.uploaded = [⟨2⟩] ∧ later.shared.documents.map Document.status = [.failed] ∧
      Ages system.shared later.shared := by
  obtain ⟨system, reached, checked⟩ := @System.reaches_checked _ _ (fun _ _ => True)
    (fun _ _ => true) (emptyStores site) (emptyStores site) (creates ++ looks 1 ++ stores 1 ⟨2⟩)
    (fun system => system.shared.uploaded = [⟨2⟩] &&
      (system.replay (fun _ _ => true) (ingests 2 ⟨2⟩)).any fun later =>
        later.shared.documents.map Document.status = [.failed])
    .start (fun _ _ _ => trivial) (by decide +kernel)
  obtain ⟨uploaded, ran⟩ := (Bool.and_eq_true _ _).mp checked
  obtain ⟨later, goes_on, failed⟩ := System.reaches_checked _ _ .start (fun _ _ _ => trivial) ran
  exact ⟨system, later, of_decide_eq_true uploaded, of_decide_eq_true failed,
    documents_age site system later reached goes_on⟩

/-- A document under ingestion has one pass, and stays as that pass has read it. -/
theorem ingested_by_one (settings : Settings) (system : KnowledgeSystem settings)
    (reached : System.Reaches (fun _ _ => True) (emptyStores settings) system) {i : Nat}
    {session : Session} {row : Document} (live : system.Live i session)
    (claimed : session.claimed = some row) :
    system.shared.locks row.id = some i ∧ row ∈ system.shared.documents ∧
      row.status = .uploaded ∧ ∀ j other document, system.Live j other →
        other.claimed = some document → document.id = row.id → j = i := by
  have holds := (ageing_reached reached).2
  obtain ⟨locked, stored, uploaded⟩ := (holds i session live).1 row claimed
  refine ⟨locked, stored, uploaded, fun j other document alive reads same => ?_⟩
  have theirs := ((holds j other alive).1 document reads).1
  rw [same, locked] at theirs
  exact (Option.some.inj theirs).symm

/-- One pass has claimed the document while another one looks for work. -/
theorem ingested_by_one_tick : ∃ (system : KnowledgeSystem site) (session : Session)
    (row : Document), system.session? 2 = some session ∧ session.claimed = some row ∧
      row.id = ⟨2⟩ ∧ row.status = .uploaded := by
  obtain ⟨system, reached, checked⟩ := @System.reaches_checked _ _ (fun _ _ => True)
    (fun _ _ => true) (emptyStores site) (emptyStores site)
    (creates ++ looks 1 ++ stores 1 ⟨2⟩ ++
      [.begin 2 .tick, .perform 2 (.chosen ⟨2⟩), .begin 3 .tick, .perform 3 .nothing])
    (fun system => ((system.session? 2).bind Session.claimed).map Document.id = some ⟨2⟩) .start
    (fun _ _ _ => trivial) (by decide +kernel)
  obtain ⟨row, found, same⟩ := Option.map_eq_some_iff.mp (of_decide_eq_true checked)
  obtain ⟨session, present, claimed⟩ := Option.bind_eq_some_iff.mp found
  exact ⟨system, session, row, present, claimed, same, (ingested_by_one site system reached
    (System.live_of_session? present) claimed).2.2.1⟩

end AiPlatform.Knowledge
