import InspectionHost.Proofs.Call.Standing

/-!
# When a call is given up

A call is given up in one turn of its course. If it is given up for a limit, this is a turn at
the token, which is cancelled, or a turn at the clock, which has reached the end of the time. In
front of a turn at the clock is a turn at the token, with no turn between them, and there the call
was not cancelled.

## Main definitions

* `CallPhase.IsGivenUp` : the call is given up for a failure.
* `CallPhase.AtStage` : a look has come to a stage.
* `CallScene.FoundCancelled`, `CallScene.FoundLate` : a turn of the course found a limit reached.

## Main results

* `CallScene.limits_run` : the limits of a call count from its launch on.
* `CallScene.phase_run_of_error` : a call whose limits cannot be made is aborted.
* `CallScene.exists_turn_of_isGivenUp` : the turn in which a call is given up.
* `CallScene.exists_turn_of_atStage_clock` : the turn at the token in front of one at the clock.
* `CallScene.found_of_isGivenUp` : a call that is given up for a limit has found it reached.
-/

namespace InspectionHost

namespace CallPhase

/-- The call is given up for a failure, or it is over with it. -/
def IsGivenUp (f : Failure) (p : CallPhase) : Prop :=
  p = killing f ∨ p = reaping f ∨ p = finished (.failed f)

/-- A look has come to a stage. -/
def AtStage (stage : LookStage) (p : CallPhase) : Prop :=
  p = waiting stage ∨ ∃ status, p = collecting status stage

/-- Only a stage at which nothing is found gives a call up otherwise than for its output. -/
theorem exists_next_of_isGivenUp_step {l : Limits} {g : Glance} {p : CallPhase} {f : Failure}
    (hkind : f.kind ≠ .io) (before : ¬ p.IsGivenUp f) (after : (p.step l g).IsGivenUp f) :
    ∃ stage, p.AtStage stage ∧ stage.next l g = .error f := by
  cases p with
  | launching => exact (before after).elim
  | waiting stage =>
    refine ⟨stage, .inl rfl, ?_⟩
    simp only [step] at after
    rcases awaitExit_cases l stage g with ⟨_, -, -, h⟩ | ⟨error, -, -, h⟩ |
      ⟨-, ⟨_, -, h⟩ | ⟨f', hnext, h⟩⟩
    · simp [h, IsGivenUp] at after
    · have hf : .io error.message = f := by simpa [h, IsGivenUp] using after
      exact (hkind (hf ▸ rfl)).elim
    · simp [h, IsGivenUp] at after
    · have hf : f' = f := by simpa [h, IsGivenUp] using after
      rw [hnext, hf]
  | killing f' =>
    have hf : f' = f := by simpa [step, IsGivenUp] using after
    exact (before (.inl (by rw [hf]))).elim
  | reaping f' =>
    have hf : f' = f := by
      simp only [step, awaitKilled] at after
      split at after <;> simpa [IsGivenUp] using after
    exact (before (.inr (.inl (by rw [hf])))).elim
  | collecting status stage =>
    refine ⟨stage, .inr ⟨status, rfl⟩, ?_⟩
    simp only [step] at after
    rcases awaitLines_cases l status stage g with ⟨_, -, -, h⟩ | ⟨f', -, -, kind, h⟩ |
      ⟨-, ⟨_, -, h⟩ | ⟨f', hnext, h⟩⟩
    · simp [h, IsGivenUp] at after
    · have hf : f' = f := by simpa [h, IsGivenUp] using after
      exact (hkind (hf ▸ kind)).elim
    · simp [h, IsGivenUp] at after
    · have hf : f' = f := by simpa [h, IsGivenUp] using after
      rw [hnext, hf]
  | finished ending => exact (before after).elim
  | aborted abort => exact (before after).elim

/-- Only a look at the token that finds the call not cancelled leads to the clock. -/
theorem atStage_token_of_step {l : Limits} {g : Glance} {p : CallPhase}
    (after : (p.step l g).AtStage .clock) :
    p.AtStage .token ∧ l.checkToken g.cancelled = none := by
  have hnext {stage : LookStage} (h : stage.next l g = .ok .clock) :
      stage = .token ∧ l.checkToken g.cancelled = none := by
    cases stage with
    | event =>
      have : (if l.isUnbounded then LookStage.event else .token) = .clock := Except.ok.inj h
      split at this <;> cases this
    | token =>
      simp only [LookStage.next] at h
      split at h
      · cases h
      · next token => exact ⟨rfl, token⟩
    | clock =>
      simp only [LookStage.next] at h
      split at h <;> cases h
  cases p with
  | waiting stage =>
    simp only [step] at after
    rcases awaitExit_cases l stage g with ⟨_, -, -, h⟩ | ⟨_, -, -, h⟩ |
      ⟨-, ⟨stage', goesOn, h⟩ | ⟨_, -, h⟩⟩
    · simp [h, AtStage] at after
    · simp [h, AtStage] at after
    · have hclock : stage' = .clock := by simpa [h, AtStage] using after
      obtain ⟨rfl, token⟩ := hnext (hclock ▸ goesOn)
      exact ⟨.inl rfl, token⟩
    · simp [h, AtStage] at after
  | reaping f =>
    simp only [step, awaitKilled] at after
    split at after <;> simp [AtStage] at after
  | collecting status stage =>
    simp only [step] at after
    rcases awaitLines_cases l status stage g with ⟨_, -, -, h⟩ | ⟨_, -, -, -, h⟩ |
      ⟨-, ⟨stage', goesOn, h⟩ | ⟨_, -, h⟩⟩
    · simp [h, AtStage] at after
    · simp [h, AtStage] at after
    · have hclock : stage' = .clock := by simpa [h, AtStage] using after
      obtain ⟨rfl, token⟩ := hnext (hclock ▸ goesOn)
      exact ⟨.inr ⟨status, rfl⟩, token⟩
    · simp [h, AtStage] at after
  | _ => simp [step, AtStage] at after

end CallPhase

namespace CallScene

variable {s : CallScene} {path : String} {events : List CallEvent}

/-- The time of a call counts from its launch on. -/
theorem limits_run (answer : LaunchAnswer) (r : CallRequest) (events : List CallEvent) :
    ∀ time, ((start answer r).run events).record.launchedAt = some time →
      ∀ l, Limits.starting r.client.options.timeout r.token.isSome time = .ok l →
        ((start answer r).run events).call.limits = l := by
  induction events using List.reverseRecOn with
  | nil => exact fun _ launched => nomatch launched
  | append_singleton events e ih =>
    have hrequest : ((start answer r).run events).call.toCallRequest = r := request_run ..
    rw [run_append, run_cons, run_nil]
    cases e with
    | turn fault =>
      simp only [apply, turn]
      split
      · intro time launched l starts
        obtain rfl := Option.some.inj launched
        have limits : ((start answer r).run events).call.startingLimits
            ((start answer r).run events).now = .ok l := by
          rwa [ActiveCall.startingLimits, hrequest]
        simp [launch, ActiveCall.launched, limits, Except.toOption]
      · simpa [conclude] using ih
      · simpa [conclude] using ih
      · simpa [record_step, limits_step] using ih
    | _ => exact ih

/-- A call whose limits cannot be made is aborted behind its launch, and stays so. -/
theorem phase_run_of_error (path : String) (r : CallRequest) (events : List CallEvent) :
    ∀ time, ((start (.running path (.ok ())) r).run events).record.launchedAt = some time →
      ∀ abort, Limits.starting r.client.options.timeout r.token.isSome time = .error abort →
        ((start (.running path (.ok ())) r).run events).call.phase = .aborted abort := by
  induction events using List.reverseRecOn with
  | nil => exact fun _ launched => nomatch launched
  | append_singleton events e ih =>
    have hrequest : ((start (.running path (.ok ())) r).run events).call.toCallRequest = r :=
      request_run ..
    have hanswer : ((start (.running path (.ok ())) r).run events).answer =
        .running path (.ok ()) := answer_run ..
    rw [run_append, run_cons, run_nil]
    cases e with
    | turn fault =>
      simp only [apply, turn]
      split
      · intro time launched abort fails
        obtain rfl := Option.some.inj launched
        exact phase_launch_of_error hanswer (by rwa [ActiveCall.startingLimits, hrequest])
      · simpa [conclude] using ih
      · simpa [conclude] using ih
      · next unaborted =>
        intro time launched abort fails
        exact (unaborted abort (ih time (by simpa [record_step] using launched) abort fails)).elim
    | _ => exact ih

theorem not_isGivenUp_launch {f : Failure} (limit : f.kind = .timedOut ∨ f.kind = .cancelled) :
    ¬ s.launch.call.phase.IsGivenUp f := by
  have other {g : Failure} (kind : ¬ (g.kind = .timedOut ∨ g.kind = .cancelled)) : g ≠ f :=
    fun same => kind (same ▸ limit)
  cases answer : s.answer with
  | notFound =>
    simp [launch, ActiveCall.launched, answer, LaunchAnswer.result, CallPhase.ofLaunch,
      CallPhase.IsGivenUp, other, Failure.notFound]
  | refused error =>
    simp [launch, ActiveCall.launched, answer, LaunchAnswer.result, CallPhase.ofLaunch,
      CallPhase.IsGivenUp, other, Failure.launch]
  | running path reader =>
    cases reader with
    | ok =>
      cases limits : s.call.startingLimits s.now with
      | ok l => simp [phase_launch_of_ok answer limits, CallPhase.IsGivenUp]
      | error abort => simp [phase_launch_of_error answer limits, CallPhase.IsGivenUp]
    | error error =>
      simp [launch, ActiveCall.launched, answer, LaunchAnswer.result, LaunchResult.ofOutput,
        Client.launch, CallPhase.ofLaunch, CallPhase.IsGivenUp, other, Failure.io]

/-- A call that is given up for a limit is given up in a turn at some stage of a look. -/
theorem exists_turn_of_isGivenUp {f : Failure}
    (limit : f.kind = .timedOut ∨ f.kind = .cancelled) (fresh : s.call.phase = .launching)
    (h : (s.run events).call.phase.IsGivenUp f) :
    ∃ before fault after stage, events = before ++ .turn fault :: after ∧
      (s.run before).call.phase.AtStage stage ∧
      stage.next (s.run before).call.limits ((s.run before).glance fault) = .error f := by
  induction events using List.reverseRecOn with
  | nil => simp [fresh, CallPhase.IsGivenUp] at h
  | append_singleton events e ih =>
    by_cases already : (s.run events).call.phase.IsGivenUp f
    · obtain ⟨before, fault, after, stage, rfl, at_, next⟩ := ih already
      exact ⟨before, fault, after ++ [e], stage, by simp, at_, next⟩
    · rw [run_append, run_cons, run_nil] at h
      cases e with
      | turn fault =>
        simp only [apply, turn] at h
        split at h
        · exact (not_isGivenUp_launch limit h).elim
        · exact (already (by simpa [conclude] using h)).elim
        · exact (already (by simpa [conclude] using h)).elim
        · have hkind : f.kind ≠ .io := by rcases limit with kind | kind <;> simp [kind]
          obtain ⟨stage, at_, next⟩ := CallPhase.exists_next_of_isGivenUp_step hkind already h
          exact ⟨events, fault, [], stage, rfl, at_, next⟩
      | _ => exact (already h).elim

/-- In front of a turn at the clock is a turn at the token that found the call not cancelled, with
no turn between them. -/
theorem exists_turn_of_atStage_clock (answer : s.answer = .running path (.ok ()))
    (fresh : s.call.phase = .launching) (h : (s.run events).call.phase.AtStage .clock) :
    ∃ before fault between, events = before ++ .turn fault :: between ∧
      (∀ fault', .turn fault' ∉ between) ∧ (s.run before).call.phase.AtStage .token ∧
      (s.run before).call.limits.checkToken ((s.run before).glance fault).cancelled = none := by
  induction events using List.reverseRecOn with
  | nil => simp [fresh, CallPhase.AtStage] at h
  | append_singleton events e ih =>
    rw [run_append, run_cons, run_nil] at h
    by_cases quiet : ∀ fault, e ≠ .turn fault
    · rw [call_apply_of_ne_turn quiet] at h
      obtain ⟨before, fault, between, rfl, quiet', at_, token⟩ := ih h
      refine ⟨before, fault, between ++ [e], by simp, fun fault' here => ?_, at_, token⟩
      rcases List.mem_append.1 here with here | last
      · exact quiet' fault' here
      · exact quiet fault' (List.mem_singleton.1 last).symm
    · obtain ⟨fault, rfl⟩ := not_forall_not.1 quiet
      simp only [apply, turn] at h
      split at h
      · have hanswer := (answer_run s events).trans answer
        cases limits : (s.run events).call.startingLimits (s.run events).now with
        | ok l => simp [phase_launch_of_ok hanswer limits, CallPhase.AtStage] at h
        | error abort => simp [phase_launch_of_error hanswer limits, CallPhase.AtStage] at h
      · next finished => simp [conclude, finished, CallPhase.AtStage] at h
      · next aborted => simp [conclude, aborted, CallPhase.AtStage] at h
      · obtain ⟨at_, token⟩ := CallPhase.atStage_token_of_step h
        exact ⟨events, fault, [], rfl, by simp, at_, token⟩

/-- A call that looks at its limits was launched, and its limits count from then on. -/
theorem limits_of_atStage (answer : LaunchAnswer) (r : CallRequest) {events : List CallEvent}
    {stage : LookStage} (h : ((start answer r).run events).call.phase.AtStage stage) :
    ∃ time, ((start answer r).run events).record.launchedAt = some time ∧
      Limits.starting r.client.options.timeout r.token.isSome time =
        .ok ((start answer r).run events).call.limits := by
  have hrequest : ((start answer r).run events).call.toCallRequest = r := request_run ..
  have hstanding : ((start answer r).run events).Standing True :=
    standing_run answer r fun _ _ => trivial
  rcases h with phase | ⟨status, phase⟩
  · obtain ⟨time, record, limits⟩ := hstanding.of_waiting phase
    exact ⟨time, by rw [record], by rwa [ActiveCall.startingLimits, hrequest] at limits⟩
  · obtain ⟨time, record, limits⟩ := hstanding.of_collecting phase
    exact ⟨time, by rw [record], by rwa [ActiveCall.startingLimits, hrequest] at limits⟩

/-- The call can be cancelled, and a turn of the course found it cancelled. -/
def FoundCancelled (s : CallScene) (events : List CallEvent) : Prop :=
  s.call.token.isSome = true ∧ ∃ before fault after, events = before ++ .turn fault :: after ∧
    (s.run before).call.phase.AtStage .token ∧ (s.run before).cancelled = true

/-- The call has a time limit, and a turn of the course found its time over. The turn in front of
that one looked at the token, and did not find the call cancelled. -/
def FoundLate (s : CallScene) (events : List CallEvent) (limit : Duration) : Prop :=
  s.call.client.options.timeout = some limit ∧ ∃ before fault between fault' after launched,
    events = before ++ .turn fault :: (between ++ .turn fault' :: after) ∧
    (∀ fault, .turn fault ∉ between) ∧ (s.run before).call.phase.AtStage .token ∧
    ¬ (s.call.token.isSome = true ∧ (s.run before).cancelled = true) ∧
    (s.run (before ++ .turn fault :: between)).call.phase.AtStage .clock ∧
    (s.run (before ++ .turn fault :: between)).record.launchedAt = some launched ∧
    launched + limit.nanos ≤ (s.run (before ++ .turn fault :: between)).now

/-- A call that is given up for a limit was given up in a turn that found the limit reached. -/
theorem found_of_isGivenUp {r : CallRequest} {f : Failure} (reached : f.IsLimit)
    (h : ((start (.running path (.ok ())) r).run events).call.phase.IsGivenUp f) :
    (f = .cancelled ∧ (start (.running path (.ok ())) r).FoundCancelled events) ∨
      ∃ limit, f = .timedOut limit ∧
        (start (.running path (.ok ())) r).FoundLate events limit := by
  obtain ⟨before, fault, after, stage, rfl, at_, stops⟩ :=
    exists_turn_of_isGivenUp reached.kind rfl h
  obtain ⟨launched, hlaunched, starts⟩ := limits_of_atStage _ r at_
  obtain ⟨limits, -⟩ := Limits.starting_eq_ok_iff.1 starts
  rcases LookStage.next_eq_error stops with
    ⟨rfl, rfl, cancellable, cancelled⟩ | ⟨rfl, limit, deadline, timed, late, rfl⟩
  · refine .inl ⟨rfl, ?_, before, fault, after, rfl, at_, ?_⟩
    · rwa [limits] at cancellable
    · exact (Bool.and_eq_true_iff.1 cancelled).2
  · obtain ⟨first, fault', between, rfl, quiet, atToken, token⟩ :=
      exists_turn_of_atStage_clock rfl rfl at_
    obtain ⟨_, -, starts'⟩ := limits_of_atStage _ r atToken
    obtain ⟨limits', -⟩ := Limits.starting_eq_ok_iff.1 starts'
    have htimed : r.client.options.timeout = some limit ∧ launched + limit.nanos = deadline := by
      rw [limits] at timed
      simpa using timed
    refine .inr ⟨limit, rfl, htimed.1, first, fault', between, fault, after, launched, by simp,
      quiet, atToken, fun both => ?_, at_, hlaunched, ?_⟩
    · have hsome : r.token.isSome = true := both.1
      have hnone : (start (.running path (.ok ())) r).call.token = none := by
        simpa [glance, limits', Limits.checkToken, hsome, both.2] using token
      simp [hnone] at both
    · rw [htimed.2]
      exact late

end CallScene

end InspectionHost
