import AiPlatform.DeploymentRuns

/-!
Stopped deployments and the worker. A pass works on instances that it loaded at
its start and commits at its end, so a stop that commits in between is lost.
-/

namespace AiPlatform.Deployments

def Session.stops (session : Session) (stopped : Tracked deploymentTable) : Bool :=
  decide (.state .stopped ∈ stopped.assigned) &&
    decide (stopped.key ∉ session.deletedDeployments)

/-- No commit makes a deployment STOPPED that the pass of a worker has loaded. -/
def StopsUnheld (system : DeploymentSystem) (label : DeploymentLabel) : Prop :=
  ∀ j stopper, label = .commit j → system.Live j stopper →
    ∀ stopped ∈ stopper.deployments, stopper.stops stopped = true →
      ∀ i pass, system.Live i pass → pass.action.ticks = true →
        ∀ held ∈ pass.deployments, held.key ≠ stopped.key

structure Current (session : Session) (shared : Shared) : Prop where
  deployments : session.deletedDeployments = []
  nodes : session.deletedNodes = []
  held : ∀ tracked ∈ session.deployments, tracked.inserted = false ∧
    ∀ row ∈ shared.deployments, row.id = tracked.key → row.state ≠ .stopped

section Passes

variable {i : Nat} {session : Session} {shared next : Shared} {op : Op} {reply : Reply op}

theorem Current.after (current : Current session shared) (pass : session.action.ticks = true)
    (permitted : session.Permits op) (distinct : shared.Distinct)
    (reacts : Reaction i session shared op reply next) :
    Current (session.after op reply) shared := by
  obtain ⟨deployments, nodes⟩ := @after_deleted session op reply
  refine ⟨?_, ?_, fun tracked member => ?_⟩
  · rw [deployments, current.deployments, List.nil_append]
    cases op with
    | write write =>
        cases write with
        | deleteDeployment id =>
            obtain ⟨⟨other, deletes⟩, _⟩ := permitted
            rw [deletes] at pass
            cases pass
        | _ => rfl
    | _ => rfl
  · rw [nodes, current.nodes, List.nil_append]
    cases op with
    | write write =>
        cases write with
        | deleteNode id =>
            rw [permitted] at pass
            cases pass
        | _ => rfl
    | _ => rfl
  · cases turned reacts tracked member with
    | kept old _ there altered =>
        obtain ⟨loaded, alive⟩ := current.held old there
        refine ⟨altered.inserted.trans loaded, ?_⟩
        rw [altered.key]
        exact alive
    | loaded row query stored reads deploys pending =>
        refine ⟨rfl, fun other listed same => ?_⟩
        have one : other = row := List.inj_on_of_nodup_map distinct.deployments listed stored same
        subst one
        subst reads
        cases query with
        | pending =>
            intro stopped
            have waits := pending rfl
            rw [stopped] at waits
            cases waits
        | deployment id =>
            cases action : session.action <;>
              simp_all [Session.Permits, Action.ticks, Action.steers]
        | deployments =>
            obtain ⟨⟨remove, reconciles⟩, _⟩ := permitted
            rw [reconciles] at pass
            cases pass
        | _ => cases deploys
    | inserted draft inserts =>
        subst inserts
        obtain ⟨⟨spec, actor, deploys⟩, _⟩ := permitted
        rw [deploys] at pass
        cases pass

theorem stopped_stored {row : ModelDeployment} (member : row ∈ shared.deploymentsAfter session)
    (stopped : row.state = .stopped) :
    (∃ old ∈ shared.deployments, old.id = row.id ∧ old.state = .stopped) ∨
      (∃ tracked ∈ session.deployments, tracked.key = row.id ∧ session.stops tracked = true) ∨
        row ∈ inserted session.deployments := by
  obtain ⟨kept, _, ⟨old, stored, same, rfl⟩ | own⟩ := mem_deploymentsAfter member
  · rcases Tracked.update_cases (T := deploymentTable) session.deployments old with
      ⟨unchanged, _⟩ | ⟨tracked, listed, _, keyed, written⟩
    · rw [unchanged] at stopped
      exact .inl ⟨old, stored, same.symm, stopped⟩
    · have state := replay_state tracked.assigned old
      rw [written] at stopped
      rw [stopped] at state
      rcases state with before | now
      · exact .inl ⟨old, stored, same.symm, before.symm⟩
      · have keyed := keyed.trans same.symm
        refine .inr (.inl ⟨tracked, listed, keyed, ?_⟩)
        rw [← keyed] at kept
        simp only [Session.stops, now, kept, not_false_eq_true, decide_true, Bool.and_self]
  · exact .inr (.inr own)

theorem Current.keeps (current : Current session shared) {row : ModelDeployment}
    (stored : row ∈ shared.deployments) (stopped : row.state = .stopped) :
    row ∈ shared.deploymentsAfter session := by
  have unloaded (tracked : Tracked deploymentTable) (member : tracked ∈ session.deployments)
      (keyed : tracked.key = row.id) : False :=
    (current.held tracked member).2 row stored keyed.symm stopped
  have unchanged : Tracked.update (T := deploymentTable) session.deployments row = row :=
    Tracked.update_clean fun tracked member _ keyed => (unloaded tracked member keyed).elim
  refine List.mem_filter.mpr ⟨Tracked.mem_store.mpr (.inl ⟨row, stored, unchanged⟩), ?_⟩
  simp [current.deployments, current.nodes]

end Passes

section Runs

def passes : Invariant discipline StopsUnheld Sound where
  shared _ := True
  session _ session shared := session.action.ticks = true → Current session shared
  begins system i request _ _ _ _ :=
    ⟨rfl, rfl, fun _ member => nomatch member⟩
  performs system i answer op session reply after sound _ performing _ _ own reacts := by
    have same := (reaction reacts).untouched
    have kept {other : Session} (current : other.action.ticks = true → Current other system.shared) :
        other.action.ticks = true → Current other after := fun pass => by
      obtain ⟨deployments, nodes, held⟩ := current pass
      exact ⟨deployments, nodes, by rw [same.deployments]; exact held⟩
    refine ⟨trivial, kept fun pass => ?_, fun j other _ _ current => kept current⟩
    have pass : session.action.ticks = true :=
      (congrArg Action.ticks (after_action op reply)).symm.trans pass
    exact (own pass).after pass (sound.permits performing) sound.fresh.distinct (reaction reacts)
  commits system j stopper after sound meets ending _ _ _ commits := by
    refine ⟨trivial, fun i session different live current pass => ?_⟩
    obtain ⟨_, _, rfl⟩ := commit_some commits
    obtain ⟨deployments, nodes, held⟩ := current pass
    refine ⟨deployments, nodes, fun tracked member => ?_⟩
    obtain ⟨loaded, alive⟩ := held tracked member
    refine ⟨loaded, fun row stored same stopped => ?_⟩
    rcases stopped_stored stored stopped with ⟨old, before, keyed, was⟩ |
      ⟨other, listed, keyed, stops⟩ | own
    · exact alive old before (keyed.trans same) was
    · exact meets j stopper rfl ending.live other listed stops i session live pass tracked member
        (same.symm.trans keyed.symm)
    · exact sound.fresh.unloaded live ending.live (mem_seen_deployment member loaded)
        (mem_drawn_deployment own) same
  aborts _ _ _ _ _ _ _ _ := by
    refine ⟨trivial, fun _ _ _ _ current pass => ?_⟩
    obtain ⟨deployments, nodes, held⟩ := current pass
    exact ⟨deployments, nodes, held⟩
  changes system edit _ _ _ := by
    refine ⟨trivial, fun _ _ _ current pass => ?_⟩
    obtain ⟨deployments, nodes, held⟩ := current pass
    cases edit <;> exact ⟨deployments, nodes, held⟩

/-- In every run in which no stop commits while a pass has the deployment loaded,
the commit of a pass leaves every STOPPED deployment as it is. -/
theorem pass_keeps_stopped (system next : DeploymentSystem)
    (reached : System.Reaches StopsUnheld start system) (i : Nat) (session : Session)
    (live : system.Live i session) (pass : session.action.ticks = true)
    (committed : system.step (.commit i) = some next) (row : ModelDeployment)
    (stored : row ∈ system.shared.deployments) (stopped : row.state = .stopped) :
    row ∈ next.shared.deployments := by
  have holds := passes.reached (fun _ => rfl) trivial (fun system => sound_reached system) system
    reached
  cases System.step_transition committed with
  | commit _ other shared ending commits =>
      have same := System.live_unique live ending.live
      subst same
      obtain ⟨_, _, rfl⟩ := commit_some commits
      exact (holds.2 i session live pass).keeps stored stopped

end Runs

def stopsUnheld (system : DeploymentSystem) : DeploymentLabel → Bool
  | .commit j =>
      (system.session? j).all fun stopper => stopper.deployments.all fun stopped =>
        !stopper.stops stopped || (List.range 5).all fun i =>
          (system.session? i).all fun pass => !pass.action.ticks ||
            pass.deployments.all fun held => held.key ≠ stopped.key
  | _ => true

theorem stopsUnheld_of {system : DeploymentSystem} {label : DeploymentLabel}
    (below : system.Below 5) (meets : stopsUnheld system label = true) :
    StopsUnheld system label := by
  rintro j stopper rfl live stopped listed stops i pass other ticks held member
  simp only [stopsUnheld, live.session?, Option.all_some, List.all_eq_true] at meets
  have checked := meets stopped listed
  simp only [stops, Bool.not_true, Bool.false_or, List.all_eq_true, List.mem_range] at checked
  have one := checked i (below.live other)
  simp only [other.session?, Option.all_some, ticks, Bool.not_true, Bool.false_or,
    List.all_eq_true] at one
  simpa using one held member

def stoppedFirst : List DeploymentLabel :=
  [.change (.model servedModel)] ++ registers 0 [] ++ deploysMock 1 ++ ticks 2 ++
    creates 2 "c1" ++ [.commit 2] ++ stops 3 1 ++ [.commit 3] ++ ticks 4

theorem pass_keeps_stopped_first : ∃ system next : DeploymentSystem, ∃ row : ModelDeployment,
    row ∈ system.shared.deployments ∧ row.state = .stopped ∧
      system.step (.commit 4) = some next ∧ row ∈ next.shared.deployments := by
  obtain ⟨system, reached, checked⟩ := reached_below 5 stopsUnheld stoppedFirst
    (fun system => (system.session? 4).any fun session =>
      session.action.ticks && (system.shared.deployments.any fun row => row.state = .stopped) &&
        (system.step (.commit 4)).isSome)
    (fun _ _ => stopsUnheld_of) (by decide +kernel)
  obtain ⟨session, found, checked⟩ := (Option.any_eq_true _ _).mp checked
  simp only [Bool.and_eq_true, List.any_eq_true, decide_eq_true_eq, Option.isSome_iff_exists]
    at checked
  obtain ⟨⟨pass, row, stored, stopped⟩, next, committed⟩ := checked
  exact ⟨system, next, row, stored, stopped, committed,
    pass_keeps_stopped system next reached 4 session (System.live_of_session? found) pass committed
      row stored stopped⟩

/-- The pass has the deployment loaded when it is stopped. The stop is committed,
and the pass then commits the deployment as RUNNING. -/
theorem pass_revives_stopped : ∃ system next : DeploymentSystem, ∃ session : Session,
    ∃ row later : ModelDeployment, System.Reaches anyStep start system ∧
      system.Live 3 session ∧ session.action.ticks = true ∧ row ∈ system.shared.deployments ∧
        row.state = .stopped ∧ system.step (.commit 3) = some next ∧
          later ∈ next.shared.deployments ∧ later.id = row.id ∧ later.state = .running := by
  obtain ⟨system, reached, checked⟩ := reached_checked
    ([.change (.model servedModel)] ++ registers 0 [] ++ deploysMock 1 ++ ticks 2 ++
      creates 2 "c1" ++ [.commit 2] ++ ticks 3 ++ stops 4 1 ++ [.commit 4] ++ awaits 3)
    (fun system => (system.session? 3).any fun session =>
      session.action.ticks && system.shared.deployments.any fun row => row.state = .stopped &&
        (system.step (.commit 3)).any fun next => next.shared.deployments.any fun later =>
          later.id = row.id && later.state = .running)
    (by decide +kernel)
  obtain ⟨session, found, checked⟩ := (Option.any_eq_true _ _).mp checked
  simp only [Bool.and_eq_true, List.any_eq_true, Option.any_eq_true, decide_eq_true_eq] at checked
  obtain ⟨pass, row, stored, stopped, next, committed, later, after, same, running⟩ := checked
  exact ⟨system, next, session, row, later, reached, System.live_of_session? found, pass, stored,
    stopped, committed, after, same, running⟩

end AiPlatform.Deployments
