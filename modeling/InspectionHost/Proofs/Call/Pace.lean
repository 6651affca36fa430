import InspectionHost.Proofs.Call.Looks

/-!
# Courses that wait

That the waits of a call last is said of a course: the clock has gone on by the tick before the next
look begins. Waiting for the output ends early when the reader tells something. Nothing is asked of
the client: it may never end, it may end and leave its output open, or close its output long before
it ends.

In such a course each turn spends one of the turns that the time limit has room for, so the looks of
a call come to an end, and the call has its result after a few turns more.

## Main definitions

* `CallScene.turnPhases` : the phases in which the turns of a course are taken.
* `CallScene.Rested`, `CallScene.Paced` : a wait has lasted, and all waits of a course have.
* `CallScene.turnsLeft`, `CallScene.stepsLeft` : how many turns there may be until the call has left
  its looks, and until it has its result.

## Main results

* `CallScene.turnsLeft_apply`, `CallScene.stepsLeft_apply` : no event adds turns, and each turn
  spends one.
* `CallScene.countP_turnPhases_le` : the turns of looks in a course.
* `CallScene.isSome_result_run_of_paced` : a course with turns enough ends the call.
-/

namespace InspectionHost

namespace CallPhase

/-- Whether the output is awaited. -/
def isCollecting : CallPhase → Bool
  | collecting _ _ => true
  | _ => false

/-- How many turns there may be from a phase on besides those of looks. -/
def othersLeft (closed : Bool) : CallPhase → Nat
  | launching => 4
  | waiting _ | collecting _ _ | killing _ => 3
  | reaping _ => 2
  | finished _ | aborted _ => if closed then 0 else 1

variable {l : Limits} {g : Glance}

theorem othersLeft_le {p : CallPhase} (launched : p ≠ launching) (closed : Bool) :
    p.othersLeft closed ≤ 3 := by
  cases p with
  | launching => exact (launched rfl).elim
  | finished _ | aborted _ => cases closed <;> simp [othersLeft]
  | _ => simp [othersLeft]

/-- The end of a killed client is awaited behind the kill. -/
theorem of_step_eq_reaping {p : CallPhase} {f : Failure} (h : p.step l g = reaping f) :
    p = killing f ∨ p = reaping f := by
  cases p with
  | waiting stage =>
    simp only [step] at h
    rcases awaitExit_cases l stage g with ⟨_, -, -, h'⟩ | ⟨_, -, -, h'⟩ |
      ⟨-, ⟨_, -, h'⟩ | ⟨_, -, h'⟩⟩ <;> simp [h'] at h
  | collecting status stage =>
    simp only [step] at h
    rcases awaitLines_cases l status stage g with ⟨_, -, -, h'⟩ | ⟨_, -, -, -, h'⟩ |
      ⟨-, ⟨_, -, h'⟩ | ⟨_, -, h'⟩⟩ <;> simp [h'] at h
  | killing f' => exact .inl (by simpa [step] using h)
  | reaping f' =>
    simp only [step, awaitKilled] at h
    split at h
    · exact .inr h
    · cases h
  | launching | finished _ | aborted _ => cases h

end CallPhase

namespace CallScene

/-! ### Courses that wait -/

/-- The phase in which an event is a turn. -/
def turnPhase? (s : CallScene) : CallEvent → Option CallPhase
  | .turn _ => some s.call.phase
  | _ => none

/-- The phases in which the turns of a course are taken, in order. -/
def turnPhases : CallScene → List CallEvent → List CallPhase
  | _, [] => []
  | s, e :: events => (s.turnPhase? e).toList ++ (s.apply e).turnPhases events

/-- A wait that is asked for at a reading of the clock or later has lasted, or it has ended early
because the reader of the output has told something. -/
def Rested (s : CallScene) (since : Nat) : Prop :=
  (∃ asked, since ≤ asked ∧ asked + s.call.limits.tick asked ≤ s.now) ∨
    (s.call.phase.isCollecting = true ∧ s.capture ≠ .pending)

theorem rested_iff (s : CallScene) (since : Nat) :
    s.Rested since ↔ since + s.call.limits.tick since ≤ s.now ∨
      (s.call.phase.isCollecting = true ∧ s.capture ≠ .pending) := by
  refine or_congr ⟨fun ⟨asked, later, rest⟩ => ?_, fun rest => ⟨since, Nat.le_refl _, rest⟩⟩ Iff.rfl
  exact Nat.le_trans (s.call.limits.add_tick_mono later) rest

instance (s : CallScene) (since : Nat) : Decidable (s.Rested since) :=
  decidable_of_iff' _ (s.rested_iff since)

/-- From when on a wait lasts behind an event. -/
def restsFrom (s : CallScene) (since : Option Nat) : CallEvent → Option Nat
  | .turn _ => s.call.phase.stage?.bind (·.restsFrom s.now)
  | _ => since

/-- An event may come: a look begins when the wait that was asked for is over. -/
def Allows (s : CallScene) (since : Option Nat) : CallEvent → Prop
  | .turn _ => s.call.phase.stage? = some .event → ∀ asked ∈ since, s.Rested asked
  | _ => True

instance (s : CallScene) (since : Option Nat) : (e : CallEvent) → Decidable (s.Allows since e)
  | .turn _ => inferInstanceAs (Decidable (_ → ∀ asked ∈ since, s.Rested asked))
  | .exits _ | .captures _ | .cancels | .passes _ => .isTrue trivial

/-- Every wait of a course lasts. -/
def Paced : CallScene → Option Nat → List CallEvent → Prop
  | _, _, [] => True
  | s, since, e :: events => s.Allows since e ∧ (s.apply e).Paced (s.restsFrom since e) events

instance decidablePaced :
    (s : CallScene) → (since : Option Nat) → (events : List CallEvent) →
      Decidable (s.Paced since events)
  | _, _, [] => .isTrue trivial
  | s, since, e :: events =>
    have := decidablePaced (s.apply e) (s.restsFrom since e) events
    inferInstanceAs (Decidable (_ ∧ _))

/-- How many turns of looks there may be from a scene on. -/
def turnsLeft (s : CallScene) (limit : Duration) (since : Option Nat) : Nat :=
  s.call.phase.turnsLeft limit s.call.limits s.now since

/-- A call with a time limit. Its waits are asked for while time is left. -/
structure Timed (limit : Duration) (since : Option Nat) (s : CallScene) : Prop where
  request : s.call.client.options.timeout = some limit
  limited : s.call.phase.stage?.isSome → s.call.limits.timeout.isSome
  ahead : s.call.phase.stage? = some .event → ∀ asked ∈ since, 0 < s.call.limits.left asked

variable {s : CallScene} {limit : Duration} {since : Option Nat} {e : CallEvent}
  {events : List CallEvent} {fault : Option TurnFault} {stage : LookStage}

theorem turn_of_stage? (awaits : s.call.phase.stage? = some stage) (fault : Option TurnFault) :
    s.turn fault = s.step fault := by
  unfold turn
  split
  · next fresh => simp [fresh, CallPhase.stage?] at awaits
  · next finished => simp [finished, CallPhase.stage?] at awaits
  · next aborted => simp [aborted, CallPhase.stage?] at awaits
  · rfl

theorem stage?_turn_eq_none (launched : s.call.phase ≠ .launching)
    (ended : s.call.phase.stage? = none) (fault : Option TurnFault) :
    (s.turn fault).call.phase.stage? = none := by
  unfold turn
  split
  · next fresh => exact (launched fresh).elim
  · simpa [conclude] using ended
  · simpa [conclude] using ended
  · exact CallPhase.stage?_step_eq_none ended

theorem limited_launch (timed : s.call.client.options.timeout = some limit)
    (awaits : s.launch.call.phase.stage?.isSome) : s.launch.call.limits.timeout.isSome := by
  cases limits : s.call.startingLimits s.now with
  | ok l =>
    obtain ⟨rfl, -⟩ := Limits.starting_eq_ok_iff.1 limits
    simp [launch, ActiveCall.launched, limits, Except.toOption, timed]
  | error abort =>
    simp only [launch, ActiveCall.launched, limits] at awaits
    cases launched : s.answer.result s.call.toCallRequest <;>
      simp [launched, CallPhase.ofLaunch, CallPhase.stage?] at awaits

theorem Timed.limited_of_stage? (h : s.Timed limit since)
    (awaits : s.call.phase.stage? = some stage) : s.call.limits.timeout.isSome :=
  h.limited (by rw [awaits]; rfl)

theorem Timed.turn (h : s.Timed limit since) (fault : Option TurnFault) :
    (s.turn fault).Timed limit (s.restsFrom since (.turn fault)) := by
  refine ⟨?_, fun looks => ?_, fun event asked hasked => ?_⟩
  · rw [s.request_turn fault]
    exact h.request
  · by_cases fresh : s.call.phase = .launching
    · have hlaunch : s.turn fault = s.launch := by simp [CallScene.turn, fresh]
      rw [hlaunch] at looks ⊢
      exact limited_launch h.request looks
    · cases awaits : s.call.phase.stage? with
      | none => simp [stage?_turn_eq_none fresh awaits] at looks
      | some stage =>
        rw [turn_of_stage? awaits, limits_step]
        exact h.limited_of_stage? awaits
  · -- A wait is asked for behind a turn at the clock, which did not give the call up.
    obtain ⟨stage, awaits, rests⟩ := Option.bind_eq_some_iff.1 hasked
    obtain ⟨rfl, rfl⟩ : stage = .clock ∧ s.now = asked := by
      cases stage with
      | clock => exact ⟨rfl, Option.some.inj rests⟩
      | event | token => cases rests
    rw [turn_of_stage? awaits, phase_step] at event
    rw [turn_of_stage? awaits, limits_step]
    rcases CallPhase.stage?_step awaits with none | ⟨same, -⟩ | ⟨behind, goesOn, -⟩
    · rw [none] at event
      cases event
    · cases same
    · rcases LookStage.next_eq_ok (h.limited_of_stage? awaits) goesOn with
        ⟨same, -⟩ | ⟨same, -⟩ | ⟨-, -, ahead⟩
      · cases same
      · cases same
      · exact ahead

theorem Timed.apply (h : s.Timed limit since) (e : CallEvent) :
    (s.apply e).Timed limit (s.restsFrom since e) := by
  cases e with
  | turn fault => exact h.turn fault
  | _ => exact ⟨h.request, h.limited, h.ahead⟩

/-- A look that may begin is due, but for a reader that has told something. -/
theorem Timed.due (h : s.Timed limit since) (pace : s.Allows since (.turn fault))
    (event : s.call.phase.stage? = some .event)
    (quiet : s.call.phase.isCollecting = true → s.capture = .pending) :
    LookStage.Due s.call.limits s.now since := by
  intro asked hasked
  refine ⟨h.ahead event asked hasked, ?_⟩
  rcases (s.rested_iff asked).1 (pace event asked hasked) with rest | ⟨collects, told⟩
  · exact rest
  · exact (told (quiet collects)).elim

theorem turnsLeft_step (h : s.Timed limit since) (pace : s.Allows since (.turn fault))
    (awaits : s.call.phase.stage? = some stage) :
    (s.step fault).turnsLeft limit (stage.restsFrom s.now) + 1 ≤ s.turnsLeft limit since := by
  have hlimited := h.limited_of_stage? awaits
  simp only [turnsLeft, phase_step, limits_step]
  rcases CallPhase.stage?_eq_some_iff.1 awaits with phase | ⟨status, phase⟩
  · rw [phase]
    refine CallPhase.turnsLeft_awaitExit (g := s.glance fault) hlimited fun event => ?_
    refine h.due pace (event ▸ awaits) fun collects => ?_
    simp [phase, CallPhase.isCollecting] at collects
  · rw [phase]
    refine CallPhase.turnsLeft_awaitLines (g := s.glance fault) hlimited status
      (fun event => h.ahead (event ▸ awaits)) fun event quiet => ?_
    exact h.due pace (event ▸ awaits) fun _ => quiet

/-- A turn of no look adds no turns of looks: it is the launch, or no look is left behind it. -/
theorem turnsLeft_turn_of_stage?_eq_none (h : s.Timed limit since)
    (rests : s.call.phase.stage? = none) (fault : Option TurnFault) :
    (s.turn fault).turnsLeft limit none ≤ s.turnsLeft limit since := by
  cases phase : s.call.phase with
  | launching =>
    have hlaunch : s.turn fault = s.launch := by simp [turn, phase]
    have hleft := CallPhase.turnsLeft_ofLaunch limit s.call.client.options.program
      (s.answer.result s.call.toCallRequest) s.call.token.isSome s.now s.call.limits
    have hbefore : s.turnsLeft limit since = 4 + 3 * Limits.waits limit.nanos := by
      rw [turnsLeft, phase]
      rfl
    rw [hlaunch, hbefore]
    simpa [turnsLeft, launch, ActiveCall.launched, ActiveCall.startingLimits, h.request] using hleft
  | killing f =>
    have hstep : (s.turn fault).call.phase = .reaping f := by
      simp [turn, phase, phase_step, CallPhase.step]
    rw [turnsLeft, hstep]
    exact Nat.zero_le _
  | reaping f =>
    have hstep : (s.turn fault).call.phase = CallPhase.awaitKilled f (s.glance fault) := by
      simp [turn, phase, phase_step, CallPhase.step]
    rw [turnsLeft, hstep, CallPhase.awaitKilled]
    split <;> exact Nat.zero_le _
  | finished ending =>
    have hover : (s.turn fault).call.phase = .finished ending := by simp [turn, phase, conclude]
    rw [turnsLeft, hover]
    exact Nat.zero_le _
  | aborted abort =>
    have hover : (s.turn fault).call.phase = .aborted abort := by simp [turn, phase, conclude]
    rw [turnsLeft, hover]
    exact Nat.zero_le _
  | waiting stage | collecting _ stage => simp [phase, CallPhase.stage?] at rests

/-- No event adds turns of looks, and each of them spends one. -/
theorem turnsLeft_apply (h : s.Timed limit since) (pace : s.Allows since e) :
    (s.apply e).turnsLeft limit (s.restsFrom since e) +
      (s.turnPhase? e).toList.countP (·.stage?.isSome) ≤ s.turnsLeft limit since := by
  cases e with
  | turn fault =>
    cases awaits : s.call.phase.stage? with
    | none =>
      have hleft := turnsLeft_turn_of_stage?_eq_none h awaits fault
      simpa [apply, restsFrom, turnPhase?, awaits] using hleft
    | some stage =>
      have hleft := turnsLeft_step h pace awaits
      simpa [apply, restsFrom, turnPhase?, awaits, turn_of_stage? awaits] using hleft
  | passes nanos => exact s.call.phase.turnsLeft_anti (Nat.le_add_right s.now nanos)
  | _ => exact Nat.le_refl _

/-- A paced course has at most as many turns of looks as there are left. -/
theorem countP_turnPhases_le (h : s.Timed limit since) (pace : s.Paced since events) :
    (s.turnPhases events).countP (·.stage?.isSome) ≤ s.turnsLeft limit since := by
  induction events generalizing s since with
  | nil => exact Nat.zero_le _
  | cons e events ih =>
    obtain ⟨allowed, later⟩ := pace
    have hevent := turnsLeft_apply h allowed
    have hlater := ih (h.apply e) later
    rw [turnPhases, List.countP_append]
    omega

/-! ### The end of a call -/

theorem Standing.exists_process_of_killing {faulty : Prop} (h : s.Standing faulty) {f : Failure}
    (killing : s.call.phase = .killing f) : ∃ p, s.process = some p := by
  cases h with
  | killing _ p _ _ _ process => exact ⟨p, process⟩
  | launching phase => simp [phase] at killing
  | unlaunched _ _ _ phase | waiting _ _ _ _ phase | reaping _ _ _ _ phase
    | stopped _ _ _ _ phase | untold _ _ _ _ _ phase | collecting _ _ _ _ phase
    | uncollected _ _ _ _ _ phase | completed _ _ _ _ phase
    | aborted _ _ _ _ phase => simp [phase] at killing

/-- A call stands in one of the ways, and once its client is killed, it has ended. -/
structure Mortal (s : CallScene) : Prop where
  standing : s.Standing True
  killed : ∀ f, s.call.phase = .reaping f → (s.process.bind ClientProcess.status?).isSome

theorem Mortal.turn (h : s.Mortal) (obeyed : fault ≠ some .kill) : (s.turn fault).Mortal := by
  refine ⟨h.standing.turn fun _ _ => trivial, fun f reaping => ?_⟩
  unfold CallScene.turn at reaping ⊢
  split at reaping
  · cases launched : s.answer.result s.call.toCallRequest <;>
      cases limits : s.call.startingLimits s.now <;>
      simp [launch, ActiveCall.launched, launched, limits, CallPhase.ofLaunch] at reaping
  · next finished => simp [conclude, finished] at reaping
  · next aborted => simp [conclude, aborted] at reaping
  · rcases CallPhase.of_step_eq_reaping reaping with killing | reaping
    · obtain ⟨p, hp⟩ := h.standing.exists_process_of_killing killing
      simp [process_step, killing, hp, ClientProcess.after, ClientProcess.kill, obeyed]
    · rw [status?_step (by simp [reaping])]
      exact h.killed f reaping

theorem Mortal.apply (h : s.Mortal) (obeyed : e ≠ .turn (some .kill)) : (s.apply e).Mortal := by
  cases e with
  | turn fault => exact h.turn fun refused => obeyed (by rw [refused])
  | exits status =>
    refine ⟨h.standing.apply fun _ _ => trivial, fun f reaping => ?_⟩
    have hkilled := h.killed f reaping
    cases process : s.process with
    | none => simp [process] at hkilled
    | some p => simp [CallScene.apply, process]
  | _ => exact ⟨h.standing.apply fun _ _ => trivial, h.killed⟩

theorem isSome_result_apply (closed : s.call.result.isSome) (e : CallEvent) :
    (s.apply e).call.result.isSome := by
  cases e with
  | turn fault =>
    simp only [apply, turn]
    split
    · exact closed
    · rw [conclude, ActiveCall.conclude_of_result closed]
      exact closed
    · rw [conclude, ActiveCall.conclude_of_result closed]
      exact closed
    · exact closed
  | _ => exact closed

theorem isSome_result_run (closed : s.call.result.isSome) (events : List CallEvent) :
    (s.run events).call.result.isSome := by
  induction events generalizing s with
  | nil => exact closed
  | cons e events ih => exact ih (isSome_result_apply closed e)

/-- How many turns there may be from a scene on until the call has its result. -/
def stepsLeft (s : CallScene) (limit : Duration) (since : Option Nat) : Nat :=
  s.turnsLeft limit since + s.call.phase.othersLeft s.call.result.isSome

/-- A turn of a call that has no result spends one of the turns that it has left. -/
theorem stepsLeft_turn (h : s.Timed limit since) (mortal : s.Mortal)
    (pace : s.Allows since (.turn fault)) (open_ : s.call.result = none) :
    (s.turn fault).stepsLeft limit (s.restsFrom since (.turn fault)) + 1 ≤
      s.stepsLeft limit since := by
  have hlooks := turnsLeft_apply h pace
  simp only [apply, turnPhase?, Option.toList_some, List.countP_singleton] at hlooks
  simp only [stepsLeft]
  suffices hothers : (s.turn fault).call.phase.othersLeft (s.turn fault).call.result.isSome + 1 ≤
      s.call.phase.othersLeft s.call.result.isSome + if s.call.phase.stage?.isSome then 1 else 0 by
    omega
  cases phase : s.call.phase with
  | launching =>
    have hlaunch : s.turn fault = s.launch := by simp [turn, phase]
    rw [hlaunch]
    exact Nat.succ_le_succ (CallPhase.othersLeft_le (CallPhase.ofLaunch_ne_launching _ _ _) _)
  | waiting stage | collecting status stage =>
    have hstep : s.turn fault = s.step fault := turn_of_stage? (by rw [phase]; rfl) fault
    rw [hstep]
    refine Nat.succ_le_succ (CallPhase.othersLeft_le ?_ _)
    exact CallPhase.step_ne_launching (by simp [phase]) _ _
  | killing f =>
    have hstep : s.turn fault = s.step fault := by simp [turn, phase]
    rw [hstep, phase_step, phase]
    exact Nat.le_refl 3
  | reaping f =>
    have hstep : s.turn fault = s.step fault := by simp [turn, phase]
    have hover : (s.step fault).call.phase = .finished (.failed f) := by
      have hkilled := mortal.killed f phase
      rw [phase_step, phase, CallPhase.step, CallPhase.awaitKilled]
      rcases s.exit_glance fault with ⟨error, -, exit⟩ | ⟨status, -, exit⟩ | ⟨none, -⟩
      · rw [exit]
      · rw [exit]
      · simp [none] at hkilled
    have hopen : (s.step fault).call.result = none := open_
    rw [hstep, hover, hopen]
    exact Nat.le_refl 2
  | finished ending =>
    have hover : s.turn fault = s.conclude := by simp [turn, phase]
    rw [hover, conclude, ActiveCall.conclude_of_finished phase open_, open_]
    simp [phase, CallPhase.othersLeft]
  | aborted abort =>
    have hover : s.turn fault = s.conclude := by simp [turn, phase]
    rw [hover, conclude, ActiveCall.conclude_of_aborted phase open_, open_]
    simp [phase, CallPhase.othersLeft]

/-- No event adds turns, and each turn of a call that has no result spends one. -/
theorem stepsLeft_apply (h : s.Timed limit since) (mortal : s.Mortal) (pace : s.Allows since e)
    (open_ : s.call.result = none) :
    (s.apply e).stepsLeft limit (s.restsFrom since e) + (s.turnPhase? e).toList.length ≤
      s.stepsLeft limit since := by
  cases e with
  | turn fault => exact stepsLeft_turn h mortal pace open_
  | _ => exact Nat.add_le_add_right (turnsLeft_apply h pace) _

/-- Some turn is left until the call has its result. -/
theorem isSome_result_of_stepsLeft_eq_zero (h : s.stepsLeft limit since = 0) :
    s.call.result.isSome := by
  have hothers : s.call.phase.othersLeft s.call.result.isSome = 0 :=
    Nat.eq_zero_of_add_eq_zero_left h
  cases phase : s.call.phase with
  | finished _ | aborted _ =>
    rw [phase, CallPhase.othersLeft] at hothers
    split at hothers
    · assumption
    · cases hothers
  | _ => simp [phase, CallPhase.othersLeft] at hothers

/-- A paced course with as many turns as are left has its result. -/
theorem isSome_result_run_of_paced (h : s.Timed limit since) (mortal : s.Mortal)
    (pace : s.Paced since events) (obeyed : .turn (some .kill) ∉ events)
    (enough : s.stepsLeft limit since ≤ (s.turnPhases events).length) :
    (s.run events).call.result.isSome := by
  induction events generalizing s since with
  | nil => exact isSome_result_of_stepsLeft_eq_zero (Nat.le_zero.1 enough)
  | cons e events ih =>
    cases result : s.call.result with
    | some _ => exact isSome_result_run (by rw [result]; rfl) (e :: events)
    | none =>
      obtain ⟨allowed, later⟩ := pace
      have hevent := stepsLeft_apply h mortal allowed result
      rw [turnPhases, List.length_append] at enough
      refine ih (h.apply e) (mortal.apply fun refused => obeyed ?_) later
        (fun there => obeyed (List.mem_cons_of_mem e there)) (by omega)
      rw [← refused]
      exact List.mem_cons_self

end CallScene

end InspectionHost
