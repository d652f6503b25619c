import AiPlatform.KnowledgeRuns

/-!
How often the content of a file is stored in a knowledge base. An upload looks for
a document of the same digest and inserts its own later, and no constraint stands
behind the look-up. Two uploads that look before either has committed both insert.
-/

namespace AiPlatform.Knowledge

/-- What `find_duplicate` compares. -/
def Document.original (row : Document) : Uuid × String := (row.knowledgeBaseId, row.sha256)

def Shared.standing (shared : Shared) (baseId : Uuid) (sha256 : String) : List Document :=
  shared.documents.filter fun row =>
    row.knowledgeBaseId = baseId && row.sha256 = sha256 && row.status ≠ .failed

/-- No upload looks for a document while another one that has found none for the same
content is still under way. -/
def LooksAlone {settings : Settings} (system : KnowledgeSystem settings) :
    Label (knowledgeMachine settings) → Prop
  | .perform i _ => ∀ baseId sha256, system.op? i = some (.findDuplicate baseId sha256) →
      ∀ j session, j ≠ i → system.Live j session → session.checked ≠ some (baseId, sha256)
  | .begin _ _ | .stop _ | .commit _ | .abort _ | .change _ => True

/-- Every row comes from one of the same content, and none comes back from a failure. -/
structure Descends (before after : List Document) : Prop where
  ids : (after.map Document.id).Sublist (before.map Document.id)
  rows : ∀ row ∈ after, ∃ old ∈ before, old.id = row.id ∧ old.original = row.original ∧
    (row.status ≠ .failed → old.status ≠ .failed)

structure Single (documents : List Document) : Prop where
  distinct : (documents.map Document.id).Nodup
  one : ∀ left ∈ documents, ∀ right ∈ documents, left.original = right.original →
    left.status ≠ .failed → right.status ≠ .failed → left.id = right.id

def Unmatched (session : Session) (documents : List Document) : Prop :=
  ∀ row ∈ documents, session.checked = some row.original → row.status = .failed

section Rows

variable {before after : List Document} {session : Session} {i : Nat} {shared next : Shared}

theorem Descends.refl (documents : List Document) : Descends documents documents :=
  ⟨.refl _, fun row member => ⟨row, member, rfl, rfl, id⟩⟩

theorem descends_filter (leaves : Document → Bool) (documents : List Document) :
    Descends documents (documents.filter leaves) :=
  ⟨List.filter_sublist.map _, fun row member =>
    ⟨row, List.mem_of_mem_filter member, rfl, rfl, id⟩⟩

theorem descends_amend {id : Uuid} {change : Document → Document}
    (same : ∀ row, row.id = id → (change row).id = id)
    (changed : ∀ row ∈ before, row.id = id → row.original = (change row).original ∧
      ((change row).status ≠ .failed → row.status ≠ .failed)) :
    Descends before (Rows.amend Document.id id change before) := by
  constructor
  · have ids : (Rows.amend Document.id id change before).map Document.id =
        before.map Document.id := by
      rw [Rows.amend, List.map_map]
      apply List.map_congr_left
      intro row _
      by_cases keyed : row.id = id
      · simp [keyed, same row keyed]
      · simp [keyed]
    rw [ids]
  · intro row member
    rcases Rows.mem_amend.mp member with ⟨old, stored, keyed, rfl⟩ | ⟨stored, _⟩
    · obtain ⟨original, status⟩ := changed old stored keyed
      exact ⟨old, stored, keyed.trans (same old keyed).symm, original, status⟩
    · exact ⟨row, stored, rfl, rfl, fun standing => standing⟩

theorem Descends.single (descends : Descends before after) (single : Single before) :
    Single after where
  distinct := single.distinct.sublist descends.ids
  one := by
    intro left first right second same standing standing'
    obtain ⟨old, stored, keyed, original, status⟩ := descends.rows left first
    obtain ⟨other, listed, keyed', original', status'⟩ := descends.rows right second
    rw [← keyed, ← keyed']
    exact single.one old stored other listed (original.trans (same.trans original'.symm))
      (status standing) (status' standing')

theorem Descends.unmatched (descends : Descends before after)
    (unmatched : Unmatched session before) : Unmatched session after := by
  intro row member checked
  by_contra standing
  obtain ⟨old, stored, _, original, status⟩ := descends.rows row member
  exact status standing (unmatched old stored (original ▸ checked))

theorem Commits.descends (commits : Commits i session shared next) (own : Claims i session shared)
    (distinct : (shared.documents.map Document.id).Nodup) :
    Descends shared.documents next.documents ∨
      session.claimed = none ∧ ∃ document : Document, session.checked = some document.original ∧
        (∀ row ∈ shared.documents, row.id ≠ document.id) ∧
        next.documents = shared.documents ++ [Session.stored document] := by
  cases commits with
  | keeps documents =>
      rw [documents]
      exact .inl (.refl _)
  | inserts document claimed checked drawn status fresh documents =>
      exact .inr ⟨claimed, document, checked, fresh, documents⟩
  | concludes row document claimed keeps begun settles documents =>
      obtain ⟨_, stored, uploaded⟩ := own row claimed
      rw [documents]
      refine .inl (descends_amend (fun _ _ => keeps.id) fun old listed same => ?_)
      have found : old = row := Rows.key_unique distinct stored listed same
      subst found
      refine ⟨?_, fun _ => by simp [uploaded]⟩
      simp only [Document.original, keeps.base, keeps.sha256]
  | removes leaves free documents =>
      rw [documents]
      exact .inl (descends_filter leaves _)

theorem single_concat {document : Document} (single : Single before)
    (fresh : ∀ row ∈ before, row.id ≠ document.id)
    (unmatched : ∀ row ∈ before, row.original = document.original → row.status = .failed) :
    Single (before ++ [Session.stored document]) where
  distinct := distinct_concat Document.id single.distinct fresh
  one := by
    intro left first right second same standing standing'
    rcases List.mem_append.mp first with old | new
    · rcases List.mem_append.mp second with old' | new'
      · exact single.one left old right old' same standing standing'
      · rw [List.mem_singleton.mp new'] at same
        exact absurd (unmatched left old same) standing
    · rcases List.mem_append.mp second with old' | new'
      · rw [List.mem_singleton.mp new] at same
        exact absurd (unmatched right old' same.symm) standing'
      · rw [List.mem_singleton.mp new, List.mem_singleton.mp new']

theorem descends_mark (loaded : Document) (message : String) :
    Descends shared.documents (shared.mark i loaded message).documents := by
  refine descends_amend (fun row keyed => keyed) fun row _ _ => ⟨rfl, ?_⟩
  simp only [Shared.markedRow]
  split
  · exact fun standing => standing
  · exact fun standing => absurd rfl standing

theorem after_checked {op : Op} {reply : Reply op} {content : Uuid × String}
    (checked : (session.after op reply).checked = some content) :
    session.checked = some content ∨ op = .findDuplicate content.1 content.2 := by
  cases op with
  | findDuplicate baseId sha256 =>
      cases reply with
      | none =>
          cases checked
          exact .inr rfl
      | some found => exact .inl checked
  | save | deleteChunks | insertChunks | commit => cases reply <;> exact .inl checked
  | claimNextPending | getWithBase => cases reply <;> exact .inl checked
  | readAgain =>
      cases reply with
      | error failure => exact .inl checked
      | ok found => cases found <;> exact .inl checked
  | _ => exact .inl checked

end Rows

section Runs

variable {settings : Settings}

def emptyStores (settings : Settings) : KnowledgeSystem settings := ⟨Shared.empty, fun _ => none⟩

/-- No two sessions under way have found no document of one content. -/
def Apart (system : KnowledgeSystem settings) : Prop :=
  ∀ i j session other content, system.Live i session → system.Live j other →
    session.checked = some content → other.checked = some content → i = j

theorem apart_put {system : KnowledgeSystem settings} {i : Nat}
    {process : Process (knowledgeMachine settings)} {shared : Shared} (apart : Apart system)
    (alone : (process.status = .running ∨ process.status = .stopped) →
      ∀ content, process.session.checked = some content →
        ∀ j other, j ≠ i → system.Live j other → other.checked ≠ some content) :
    Apart (system.put i process shared) := by
  intro j k session other content first second checked checked'
  rcases Invariant.live_put first with ⟨rfl, rfl, going⟩ | ⟨different, before⟩
  · rcases Invariant.live_put second with ⟨rfl, _⟩ | ⟨different', before'⟩
    · rfl
    · exact absurd checked' (alone going content checked k other different' before')
  · rcases Invariant.live_put second with ⟨rfl, rfl, going⟩ | ⟨_, before'⟩
    · exact absurd checked (alone going content checked' j session different before)
    · exact apart j k session other content before before' checked checked'

theorem looks_apart (system : KnowledgeSystem settings)
    (reached : System.Reaches LooksAlone (emptyStores settings) system) : Apart system := by
  refine System.reaches_induction Apart ?_ ?_ system reached
  · rintro i j session other content ⟨process, found, _⟩
    cases found
  · intro system label next _ apart meets transition
    cases transition with
    | begin i request fresh => exact apart_put apart fun _ content checked => nomatch checked
    | perform i answer op rest session reply shared found reacts =>
        have performing : system.Performing i op session := ⟨rest, found⟩
        refine apart_put apart fun _ content checked j other different live => ?_
        rcases after_checked checked with before | looks
        · intro checked'
          exact different (apart j i other session content live performing.live checked' before)
        · exact meets content.1 content.2 (looks ▸ performing.op?) j other different live
    | stop i op rest session found awaits => cases awaits
    | commit i session shared ending commits =>
        exact apart_put apart fun going => by rcases going with going | going <;> cases going
    | abort i session live =>
        exact apart_put apart fun going => by rcases going with going | going <;> cases going
    | change edit => exact nomatch edit

theorem effect_descends {i : Nat} {session : Session} {shared next : Shared} {op : Op}
    {reply : Reply op} (permitted : session.Permits op) (own : Claims i session shared)
    (distinct : (shared.documents.map Document.id).Nodup)
    (effect : Effect i session shared op reply next) :
    Descends shared.documents next.documents := by
  have concluded {after : Shared} (permitted : session.Permits .commit)
      (committed : shared.commit i session = some after) :
      Descends shared.documents after.documents := by
    obtain ⟨row, ends⟩ := permitted
    obtain ⟨_, _, _, commits⟩ := commit_closes (.inr ⟨row, ends⟩) committed
    rcases commits.descends own distinct with descends | ⟨unclaimed, _⟩
    · exact descends
    · rw [ends.claimed] at unclaimed
      cases unclaimed
  cases effect with
  | quiet | stores | places | lists | draws | refers | idle | claims | commitFails | rollback
  | readsAgain | gone | markFails => exact .refl _
  | commits after committed => exact concluded permitted committed
  | commitLost failure after committed =>
      have descends := concluded permitted committed
      exact descends
  | marks loaded message result free => exact @descends_mark i shared loaded message

theorem Unmatched.looked {i : Nat} {session : Session} {shared next : Shared} {op : Op}
    {answer : Answer} {reply : Reply op} (unmatched : Unmatched session next.documents)
    (reacts : shared.react i session op answer = some (reply, next)) :
    Unmatched (session.after op reply) next.documents := by
  intro row member checked
  rcases after_checked checked with before | looks
  · exact unmatched row member before
  · subst looks
    cases reply with
    | some duplicate => exact unmatched row member checked
    | none =>
        obtain ⟨missed, same⟩ := Prod.mk.inj (Option.some.inj reacts)
        rw [← same] at member
        have other := List.find?_eq_none.mp missed row member
        simpa [Document.original] using other

def singleInvariant (settings : Settings) :
    Invariant (knowledgeDiscipline settings) LooksAlone Apart where
  shared shared := Single shared.documents
  session i session shared := Claims i session shared ∧ Unmatched session shared.documents
  begins _ _ _ _ _ _ := ⟨claims_none rfl _, fun _ _ checked => nomatch checked⟩
  performs system i answer op session reply after _ _ _ permitted single own reacts := by
    obtain ⟨claims, unmatched⟩ := own
    have change : Effect i session system.shared op reply after := effect reacts
    have descends := effect_descends permitted claims single.distinct change
    refine ⟨descends.single single, ⟨claims.own permitted change, ?_⟩, ?_⟩
    · exact (descends.unmatched unmatched).looked reacts
    · intro j other different _ held
      exact ⟨held.1.effect claims permitted different change, descends.unmatched held.2⟩
  commits system i session after apart _ ending ends single own committed := by
    obtain ⟨claims, unmatched⟩ := own
    obtain ⟨_, _, _, commits⟩ := commit_closes (.inl ends) committed
    have locks := commit_locks committed
    rcases commits.descends claims single.distinct with descends | ⟨_, document, checked, fresh, same⟩
    · refine ⟨descends.single single, fun j other different _ held => ?_⟩
      exact ⟨held.1.committed claims commits locks different, descends.unmatched held.2⟩
    · rw [same]
      refine ⟨single_concat single fresh fun row member original => ?_, ?_⟩
      · exact unmatched row member (checked.trans (congrArg some original.symm))
      · intro j other different live held
        refine ⟨held.1.committed claims commits locks different, fun row member looked => ?_⟩
        rcases List.mem_append.mp member with old | new
        · exact held.2 row old looked
        · rw [List.mem_singleton.mp new] at looked
          exact absurd (apart j i other session _ live ending.live looked checked) different
  aborts system i session _ _ _ single _ :=
    ⟨single, fun j other different _ held => ⟨(held.1.closed different).same rfl rfl, held.2⟩⟩
  changes _ edit _ _ _ := nomatch edit

theorem Single.standing {shared : Shared} (single : Single shared.documents) (baseId : Uuid)
    (sha256 : String) : (shared.standing baseId sha256).length ≤ 1 := by
  have distinct : (shared.standing baseId sha256).Nodup := single.distinct.of_map.filter _
  have same : ∀ left ∈ shared.standing baseId sha256, ∀ right ∈ shared.standing baseId sha256,
      left = right := by
    intro left first right second
    obtain ⟨stored, standing⟩ := List.mem_filter.mp first
    obtain ⟨stored', standing'⟩ := List.mem_filter.mp second
    simp only [Bool.and_eq_true, decide_eq_true_eq] at standing standing'
    apply Rows.key_unique single.distinct stored' stored
    apply single.one left stored right stored' _ standing.2 standing'.2
    rw [Document.original, Document.original, standing.1.1, standing.1.2, standing'.1.1,
      standing'.1.2]
  cases found : shared.standing baseId sha256 with
  | nil => exact Nat.zero_le 1
  | cons first rest =>
      cases rest with
      | nil => exact Nat.le_refl 1
      | cons second others =>
          rw [found] at distinct same
          have equal := same first (List.mem_cons_self ..) second (by simp)
          rw [equal] at distinct
          simp at distinct

/-- At most one document of a content has not failed, in every schedule in which no
upload looks for the content while another one that has found none is under way. -/
theorem uploads_are_single (settings : Settings) (system : KnowledgeSystem settings)
    (reached : System.Reaches LooksAlone (emptyStores settings) system) (baseId : Uuid)
    (sha256 : String) : (system.shared.standing baseId sha256).length ≤ 1 := by
  have empty : Single (emptyStores settings).shared.documents :=
    ⟨List.nodup_nil, fun _ member => nomatch member⟩
  have holds := (singleInvariant settings).reached (fun _ => rfl) empty looks_apart system reached
  exact Single.standing holds.1 baseId sha256

end Runs

/-! ## Schedules

A site whose documents hold no text, with one knowledge base. -/

def site : Settings where
  sha256 _ := "d1"
  parse _ _ _ := .error (.unsupported "No parser.")
  chunkSegments _ _ _ := .ok []
  ocr := false

abbrev SiteLabel := Label (knowledgeMachine site)

def base : Uuid := ⟨1⟩

def quiet (i n : Nat) : List SiteLabel := List.replicate n (.perform i .nothing)

def creates : List SiteLabel :=
  [.begin 0 (.create ⟨"docs", "Docs", none, "bge", 800, 100, "t"⟩ 9), .perform 0 .nothing,
    .perform 0 (.embedded [[1]]), .perform 0 (.drawn [base])] ++ quiet 0 2 ++ [.commit 0]

def looks (i : Nat) : List SiteLabel :=
  [.begin i (.upload ⟨base, "a.txt", "text/plain", [65]⟩ 9)] ++ quiet i 2

def stores (i : Nat) (id : Uuid) : List SiteLabel :=
  [.perform i (.drawn [id]), .perform i (.time 0)] ++ quiet i 2 ++ [.commit i]

def ingests (i : Nat) (id : Uuid) : List SiteLabel :=
  [.begin i .tick, .perform i (.chosen id)] ++ quiet i 5 ++ [.commit i]

/-- No upload looks while another one below `n` has found none. -/
def looksAlone (n : Nat) (system : KnowledgeSystem site) : SiteLabel → Bool
  | .perform i _ =>
      match system.op? i with
      | some (.findDuplicate baseId sha256) => (List.range n).all fun j =>
          j = i || (system.session? j).all fun session => session.checked ≠ some (baseId, sha256)
      | _ => true
  | _ => true

theorem looksAlone_meets {n : Nat} {system : KnowledgeSystem site} {label : SiteLabel}
    (below : system.Below n) (meets : looksAlone n system label = true) :
    LooksAlone system label := by
  cases label with
  | perform i answer =>
      intro baseId sha256 at' j session different live
      simp only [looksAlone, at', List.all_eq_true] at meets
      have found := meets j (List.mem_range.mpr (below.live live))
      simpa [different, live.session?] using found
  | begin | stop | commit | abort => trivial
  | change edit => exact nomatch edit

/-- The pass fails, and the file is uploaded once more. -/
theorem upload_after_failure_is_single : ∃ system : KnowledgeSystem site,
    system.shared.documents.length = 2 ∧ (system.shared.standing base "d1").length ≤ 1 := by
  have empty : (emptyStores site).Below 4 := fun _ _ => rfl
  obtain ⟨system, reached, _, checked⟩ := @System.reaches_below _ _ LooksAlone (looksAlone 4) _ _ 4
    (creates ++ looks 1 ++ stores 1 ⟨2⟩ ++ ingests 2 ⟨2⟩ ++ looks 3 ++ stores 3 ⟨3⟩)
    (fun system => system.shared.documents.length = 2) .start empty
    (fun _ _ => looksAlone_meets) (by decide +kernel)
  exact ⟨system, of_decide_eq_true checked, uploads_are_single site system reached base "d1"⟩

/-- Two uploads of one file look before either has committed. -/
theorem file_is_stored_twice : ∃ system : KnowledgeSystem site,
    System.Reaches (fun _ _ => True) (emptyStores site) system ∧
      (system.shared.standing base "d1").length = 2 := by
  obtain ⟨system, reached, checked⟩ := @System.reaches_checked _ _ (fun _ _ => True)
    (fun _ _ => true) (emptyStores site) (emptyStores site)
    (creates ++ looks 1 ++ looks 2 ++ stores 1 ⟨2⟩ ++ stores 2 ⟨3⟩)
    (fun system => (system.shared.standing base "d1").length = 2) .start
    (fun _ _ _ => trivial) (by decide +kernel)
  exact ⟨system, reached, of_decide_eq_true checked⟩

end AiPlatform.Knowledge
