import InspectionHost.Proofs.Call.Scene

/-!
# How a call stands

At every time of every course, a call stands in one of a few ways: its phase tells what it has
started, killed, found and collected, and whether its client still runs. Each way is one
constructor of `CallScene.Standing`. No event leads out of them, so they hold along every course.

The system may fail to tell how a client is. A parameter says whether this is possible; where it
is not, a call that is over leaves no process behind.

## Main definitions

* `CallScene.GivenUp` : why a call is given up before its client has been found to have ended.
* `CallScene.Unread` : why the output of a client that has ended is not collected.
* `CallScene.Standing` : how a call stands.

## Main results

* `CallScene.Standing.of_waiting` and its like : what a phase tells of the rest of the scene.
* `CallScene.Standing.apply` : no event leads out of the ways to stand.
* `CallScene.standing_run` : every call stands in one of them at every time.
-/

namespace InspectionHost

namespace Limits

theorem checkToken_eq_some {l : Limits} {cancelled : Bool} {failure : Failure}
    (h : l.checkToken cancelled = some failure) :
    failure = .cancelled ∧ l.cancellable = true ∧ cancelled = true := by
  unfold checkToken at h
  split at h
  · next both =>
    exact ⟨(Option.some.inj h).symm, by simpa using both⟩
  · cases h

/-- Only a call whose time is over is given up for the clock. -/
theorem checkClock_eq_some {l : Limits} {now : Nat} {failure : Failure}
    (h : l.checkClock now = some failure) :
    ∃ limit deadline, l.timeout = some (limit, deadline) ∧ deadline ≤ now ∧
      failure = .timedOut limit := by
  unfold checkClock at h
  split at h
  · next limit deadline timed =>
    split at h
    · next late => exact ⟨limit, deadline, timed, late, (Option.some.inj h).symm⟩
    · cases h
  · cases h

end Limits

/-- A failure for a limit of the call. -/
def Failure.IsLimit (f : Failure) : Prop :=
  f = .cancelled ∨ ∃ limit, f = .timedOut limit

theorem Failure.IsLimit.kind {f : Failure} (h : f.IsLimit) :
    f.kind = .timedOut ∨ f.kind = .cancelled := by
  rcases h with rfl | ⟨limit, rfl⟩
  · exact .inr rfl
  · exact .inl rfl

theorem Failure.IsLimit.diagnosticKind {f : Failure} (h : f.IsLimit) :
    f.kind.diagnosticKind = .clientCancelled ∨ f.kind.diagnosticKind = .clientTimedOut := by
  rcases h.kind with kind | kind
  · exact .inr (by rw [kind]; rfl)
  · exact .inl (by rw [kind]; rfl)

/-- A call is given up at the token, because it is cancelled, or at the clock, because its time is
over. -/
theorem LookStage.next_eq_error {l : Limits} {g : Glance} {stage : LookStage} {f : Failure}
    (h : stage.next l g = .error f) :
    (stage = .token ∧ f = .cancelled ∧ l.cancellable = true ∧ g.cancelled = true) ∨
      (stage = .clock ∧ ∃ limit deadline, l.timeout = some (limit, deadline) ∧ deadline ≤ g.now ∧
        f = .timedOut limit) := by
  cases stage with
  | event => cases h
  | token =>
    simp only [next] at h
    split at h
    · next token =>
      obtain rfl := Except.error.inj h
      exact .inl ⟨rfl, Limits.checkToken_eq_some token⟩
    · cases h
  | clock =>
    simp only [next] at h
    split at h
    · next clock =>
      obtain rfl := Except.error.inj h
      exact .inr ⟨rfl, Limits.checkClock_eq_some clock⟩
    · cases h

/-- A look at which nothing is found ends the call for a limit, or not at all. -/
theorem LookStage.isLimit_of_next {l : Limits} {g : Glance} {stage : LookStage} {f : Failure}
    (h : stage.next l g = .error f) : f.IsLimit := by
  rcases next_eq_error h with ⟨-, rfl, -⟩ | ⟨-, limit, -, -, -, rfl⟩
  · exact .inl rfl
  · exact .inr ⟨limit, rfl⟩

namespace CallScene

/-- Why a call is given up before its client has been found to have ended: nothing could be made
to read the output, or a limit is reached. -/
def GivenUp (s : CallScene) (f : Failure) : Prop :=
  (∃ path error, s.answer = .running path (.error error) ∧ f = .io error.message) ∨
    ((∃ path, s.answer = .running path (.ok ())) ∧ f.IsLimit)

/-- Why the output of a client that has ended is not collected. -/
def Unread (s : CallScene) (f : Failure) : Prop :=
  (∃ error, s.capture = .failed error) ∨ s.capture = .lost ∨ f.IsLimit

/-- How a call stands. The system may fail to tell how the client is if `faulty` holds. -/
inductive Standing (faulty : Prop) (s : CallScene) : Prop where
  /-- The client has not been launched. -/
  | launching (phase : s.call.phase = .launching) (process : s.process = none)
      (record : s.record = .blank)
  /-- The client could not be launched. -/
  | unlaunched (f : Failure) (time : Nat) (answer : s.answer.runs = false)
      (phase : s.call.phase = .finished (.failed f)) (process : s.process = none)
      (record : s.record = ⟨some time, 0, 0, none, none⟩)
  /-- The end of the client is awaited. -/
  | waiting (stage : LookStage) (p : ClientProcess) (time : Nat)
      (answer : ∃ path, s.answer = .running path (.ok ()))
      (phase : s.call.phase = .waiting stage) (process : s.process = some p)
      (left : p.isReaped = false) (record : s.record = ⟨some time, 1, 0, none, none⟩)
      (limits : s.call.startingLimits time = .ok s.call.limits)
  /-- The call is given up, and the client has to be killed. -/
  | killing (f : Failure) (p : ClientProcess) (time : Nat) (cause : s.GivenUp f)
      (phase : s.call.phase = .killing f) (process : s.process = some p)
      (left : p.isReaped = false) (record : s.record = ⟨some time, 1, 0, none, none⟩)
  /-- The call is given up, and the end of the killed client is awaited. -/
  | reaping (f : Failure) (p : ClientProcess) (time : Nat) (cause : s.GivenUp f)
      (phase : s.call.phase = .reaping f) (process : s.process = some p)
      (left : p.isReaped = false) (record : s.record = ⟨some time, 1, 1, none, none⟩)
  /-- The call was given up, and its client was killed for it. -/
  | stopped (f : Failure) (p : ClientProcess) (time : Nat) (cause : s.GivenUp f)
      (phase : s.call.phase = .finished (.failed f)) (process : s.process = some p)
      (gone : p.isReaped = true ∨ faulty) (record : s.record = ⟨some time, 1, 1, none, none⟩)
  /-- The system did not tell how the client is. -/
  | untold (f : Failure) (p : ClientProcess) (time : Nat) (fault : faulty)
      (answer : ∃ path, s.answer = .running path (.ok ()))
      (phase : s.call.phase = .finished (.failed f)) (process : s.process = some p)
      (left : p.isReaped = false) (record : s.record = ⟨some time, 1, 0, none, none⟩)
  /-- The client has ended, and its output is awaited. -/
  | collecting (status : ExitStatus) (stage : LookStage) (time : Nat)
      (answer : ∃ path, s.answer = .running path (.ok ()))
      (phase : s.call.phase = .collecting status stage)
      (process : s.process = some (.reaped status))
      (record : s.record = ⟨some time, 1, 0, some status, none⟩)
      (limits : s.call.startingLimits time = .ok s.call.limits)
  /-- The client has ended, and its output was not collected. -/
  | uncollected (f : Failure) (status : ExitStatus) (time : Nat) (cause : s.Unread f)
      (answer : ∃ path, s.answer = .running path (.ok ()))
      (phase : s.call.phase = .finished (.failed f))
      (process : s.process = some (.reaped status))
      (record : s.record = ⟨some time, 1, 0, some status, none⟩)
  /-- The client has ended, and its output is collected. -/
  | completed (status : ExitStatus) (lines : List String) (time : Nat)
      (answer : ∃ path, s.answer = .running path (.ok ()))
      (phase : s.call.phase = .finished (.completed status lines))
      (process : s.process = some (.reaped status)) (capture : s.capture = .lines lines)
      (record : s.record = ⟨some time, 1, 0, some status, some lines⟩)
  /-- The limits could not be made, and the client is left to itself. -/
  | aborted (abort : Abort) (p : ClientProcess) (time : Nat)
      (answer : ∃ path, s.answer = .running path (.ok ()))
      (phase : s.call.phase = .aborted abort) (process : s.process = some p)
      (left : p.isReaped = false) (record : s.record = ⟨some time, 1, 0, none, none⟩)
      (limits : s.call.startingLimits time = .error abort)

variable {faulty : Prop} {s : CallScene}

/-! ### What a phase tells -/

theorem Standing.of_launching (h : s.Standing faulty) (phase : s.call.phase = .launching) :
    s.record = .blank := by
  cases h with
  | launching _ _ record => exact record
  | unlaunched _ _ _ other | waiting _ _ _ _ other | killing _ _ _ _ other
  | reaping _ _ _ _ other | stopped _ _ _ _ other | untold _ _ _ _ _ other
  | collecting _ _ _ _ other | uncollected _ _ _ _ _ other
  | completed _ _ _ _ other | aborted _ _ _ _ other => simp [phase] at other

/-- A client that can be launched is started in the first turn of the call. -/
theorem Standing.launching_iff (h : s.Standing faulty) (runs : s.answer.runs = true) :
    s.call.phase = .launching ↔ s.process = none := by
  cases h with
  | launching phase process => simp [phase, process]
  | unlaunched _ _ answer => simp [answer] at runs
  | waiting _ _ _ _ phase process | killing _ _ _ _ phase process
  | reaping _ _ _ _ phase process | stopped _ _ _ _ phase process
  | untold _ _ _ _ _ phase process | collecting _ _ _ _ phase process
  | uncollected _ _ _ _ _ phase process | completed _ _ _ _ phase process
  | aborted _ _ _ _ phase process =>
    simp [phase, process]

/-- While the end of a client is awaited, nothing but its launch is done. -/
theorem Standing.of_waiting (h : s.Standing faulty) {stage : LookStage}
    (phase : s.call.phase = .waiting stage) : ∃ time,
      s.record = ⟨some time, 1, 0, none, none⟩ ∧
      s.call.startingLimits time = .ok s.call.limits := by
  cases h with
  | waiting _ _ time _ _ _ _ record limits => exact ⟨time, record, limits⟩
  | launching other | unlaunched _ _ _ other | killing _ _ _ _ other | reaping _ _ _ _ other
  | stopped _ _ _ _ other | untold _ _ _ _ _ other | collecting _ _ _ _ other
  | uncollected _ _ _ _ _ other | completed _ _ _ _ other
  | aborted _ _ _ _ other => simp [phase] at other

theorem Standing.of_collecting (h : s.Standing faulty) {status : ExitStatus} {stage : LookStage}
    (phase : s.call.phase = .collecting status stage) : ∃ time,
      s.record = ⟨some time, 1, 0, some status, none⟩ ∧
        s.call.startingLimits time = .ok s.call.limits := by
  cases h with
  | collecting status' _ time _ same _ record limits =>
    obtain rfl : status' = status := (CallPhase.collecting.inj (same.symm.trans phase)).1
    exact ⟨time, record, limits⟩
  | launching other | unlaunched _ _ _ other | waiting _ _ _ _ other | killing _ _ _ _ other
  | reaping _ _ _ _ other | stopped _ _ _ _ other | untold _ _ _ _ _ other
  | uncollected _ _ _ _ _ other | completed _ _ _ _ other
  | aborted _ _ _ _ other => simp [phase] at other

theorem Standing.of_completed (h : s.Standing faulty) {status : ExitStatus} {lines : List String}
    (phase : s.call.phase = .finished (.completed status lines)) :
    s.process = some (.reaped status) ∧ s.capture = .lines lines ∧
      ∃ time, s.record = ⟨some time, 1, 0, some status, some lines⟩ := by
  cases h with
  | completed status' lines' time _ same process capture record =>
    obtain ⟨rfl, rfl⟩ : status' = status ∧ lines' = lines := by simpa [same] using phase
    exact ⟨process, capture, time, record⟩
  | launching other | unlaunched _ _ _ other | waiting _ _ _ _ other | killing _ _ _ _ other
  | reaping _ _ _ _ other | stopped _ _ _ _ other | untold _ _ _ _ _ other
  | collecting _ _ _ _ other | uncollected _ _ _ _ _ other
  | aborted _ _ _ _ other => simp [phase] at other

/-- The limits of a call that is aborted could not be made, and its client is left to itself. -/
theorem Standing.of_aborted (h : s.Standing faulty) {abort : Abort}
    (phase : s.call.phase = .aborted abort) :
    (∃ path, s.answer = .running path (.ok ())) ∧
      (∃ p : ClientProcess, s.process = some p ∧ p.isReaped = false) ∧
      ∃ time, s.record = ⟨some time, 1, 0, none, none⟩ ∧
        s.call.startingLimits time = .error abort := by
  cases h with
  | aborted abort' p time answer same process left record limits =>
    obtain rfl : abort' = abort := by simpa [same] using phase
    exact ⟨answer, ⟨p, process, left⟩, time, record, limits⟩
  | launching other | unlaunched _ _ _ other | waiting _ _ _ _ other | killing _ _ _ _ other
  | reaping _ _ _ _ other | stopped _ _ _ _ other | untold _ _ _ _ _ other
  | collecting _ _ _ _ other | uncollected _ _ _ _ _ other
  | completed _ _ _ _ other => simp [phase] at other

theorem Standing.of_failed (h : s.Standing faulty) {f : Failure}
    (phase : s.call.phase = .finished (.failed f)) :
    s.answer.runs = false ∨ s.GivenUp f ∨ faulty ∨ s.Unread f := by
  cases h with
  | unlaunched _ _ answer => exact .inl answer
  | stopped f' _ _ cause same =>
    obtain rfl : f' = f := by simpa [same] using phase
    exact .inr (.inl cause)
  | untold _ _ _ fault => exact .inr (.inr (.inl fault))
  | uncollected f' _ _ cause _ same =>
    obtain rfl : f' = f := by simpa [same] using phase
    exact .inr (.inr (.inr cause))
  | launching other | waiting _ _ _ _ other | killing _ _ _ _ other | reaping _ _ _ _ other
  | collecting _ _ _ _ other | completed _ _ _ _ other
  | aborted _ _ _ _ other => simp [phase] at other

/-! ### Events around the call -/

/-- A call stands as before when nothing of it but its result is new, the process may only have
ended, and a reader that has come to its end has not changed what it told. -/
theorem Standing.frame {t : CallScene} (h : s.Standing faulty) (answer : t.answer = s.answer)
    (call : ∃ result, t.call = { s.call with result }) (record : t.record = s.record)
    (capture : s.capture ≠ .pending → t.capture = s.capture) {f : ClientProcess → ClientProcess}
    (process : t.process = s.process.map f) (kept : ∀ p, (f p).isReaped = p.isReaped)
    (reaped : ∀ status, f (.reaped status) = .reaped status) : t.Standing faulty := by
  obtain ⟨result, call⟩ := call
  have phase : t.call.phase = s.call.phase := by rw [call]
  have limits {time : Nat} (li : s.call.startingLimits time = .ok s.call.limits) :
      t.call.startingLimits time = .ok t.call.limits := by
    rw [call]
    exact li
  have hgiven {g} (hg : s.GivenUp g) : t.GivenUp g := by
    simpa only [GivenUp, answer] using hg
  have hunread {g} (hg : s.Unread g) : t.Unread g := by
    rcases hg with ⟨error, failed⟩ | lost | limit
    · exact .inl ⟨error, (capture (by simp [failed])).trans failed⟩
    · exact .inr (.inl ((capture (by simp [lost])).trans lost))
    · exact .inr (.inr limit)
  cases h with
  | launching ph pr re =>
    exact .launching (phase.trans ph) (by simp [process, pr]) (record.trans re)
  | unlaunched f time an ph pr re =>
    exact .unlaunched f time (by rw [answer, an]) (phase.trans ph) (by simp [process, pr])
      (record.trans re)
  | waiting stage p time an ph pr le re li =>
    exact .waiting stage (f p) time (by rwa [answer]) (phase.trans ph) (by simp [process, pr])
      ((kept p).trans le) (record.trans re) (limits li)
  | killing g p time ca ph pr le re =>
    exact .killing g (f p) time (hgiven ca) (phase.trans ph) (by simp [process, pr])
      ((kept p).trans le) (record.trans re)
  | reaping g p time ca ph pr le re =>
    exact .reaping g (f p) time (hgiven ca) (phase.trans ph) (by simp [process, pr])
      ((kept p).trans le) (record.trans re)
  | stopped g p time ca ph pr go re =>
    exact .stopped g (f p) time (hgiven ca) (phase.trans ph) (by simp [process, pr])
      (by rwa [kept p]) (record.trans re)
  | untold g p time fa an ph pr le re =>
    exact .untold g (f p) time fa (by rwa [answer]) (phase.trans ph) (by simp [process, pr])
      ((kept p).trans le) (record.trans re)
  | collecting status stage time an ph pr re li =>
    exact .collecting status stage time (by rwa [answer]) (phase.trans ph)
      (by simp [process, pr, reaped]) (record.trans re) (limits li)
  | uncollected g status time ca an ph pr re =>
    exact .uncollected g status time (hunread ca) (by rwa [answer]) (phase.trans ph)
      (by simp [process, pr, reaped]) (record.trans re)
  | completed status lines time an ph pr ca re =>
    exact .completed status lines time (by rwa [answer]) (phase.trans ph)
      (by simp [process, pr, reaped]) ((capture (by simp [ca])).trans ca) (record.trans re)
  | aborted abort p time an ph pr le re li =>
    exact .aborted abort (f p) time (by rwa [answer]) (phase.trans ph) (by simp [process, pr])
      ((kept p).trans le) (record.trans re) (by rw [call]; exact li)

/-! ### Turns of the call -/

/-- What a turn learns of the end of the client: nothing if the system does not tell, else its
status if it has ended. -/
theorem exit_glance (s : CallScene) (fault : Option TurnFault) :
    (∃ error, fault = some (.wait error) ∧ (s.glance fault).exit = .failed error) ∨
      (∃ status, s.process.bind ClientProcess.status? = some status ∧
        (s.glance fault).exit = .ended status) ∨
      (s.process.bind ClientProcess.status? = none ∧ (s.glance fault).exit = .pending) := by
  unfold glance
  cases hp : s.process.bind ClientProcess.status? <;> rcases fault with _ | ⟨error⟩ | _ <;> simp

theorem status?_of_exit_glance {fault : Option TurnFault} {status : ExitStatus}
    (h : (s.glance fault).exit = .ended status) :
    s.process.bind ClientProcess.status? = some status := by
  rcases s.exit_glance fault with ⟨error, -, hexit⟩ | ⟨final, hfinal, hexit⟩ | ⟨-, hexit⟩
  · simp [hexit] at h
  · rw [hfinal, ExitReading.ended.inj (hexit.symm.trans h)]
  · simp [hexit] at h

/-- Only where the system does not tell how the client is, a turn fails to learn it. -/
theorem fault_of_exit_glance {fault : Option TurnFault} {error : IoError}
    (h : (s.glance fault).exit = .failed error) : fault = some (.wait error) := by
  rcases s.exit_glance fault with ⟨given, hwait, hexit⟩ | ⟨final, -, hexit⟩ | ⟨-, hexit⟩
  · rw [hwait, ExitReading.failed.inj (hexit.symm.trans h)]
  · simp [hexit] at h
  · simp [hexit] at h

theorem exit_glance_of_status? {fault : Option TurnFault} {status : ExitStatus}
    (told : ∀ error, fault ≠ some (.wait error))
    (ended : s.process.bind ClientProcess.status? = some status) :
    (s.glance fault).exit = .ended status := by
  rcases s.exit_glance fault with ⟨error, hwait, -⟩ | ⟨final, hfinal, hexit⟩ | ⟨running, -⟩
  · exact (told error hwait).elim
  · rw [hexit, Option.some.inj (hfinal.symm.trans ended)]
  · simp [running] at ended

/-- A client whose output is read is awaited behind its launch, if limits can be made. -/
theorem phase_launch_of_ok {path : String} (answer : s.answer = .running path (.ok ()))
    {l : Limits} (limits : s.call.startingLimits s.now = .ok l) :
    s.launch.call.phase = .waiting .event := by
  simp [launch, ActiveCall.launched, answer, LaunchAnswer.result, LaunchResult.ofOutput,
    Client.launch, CallPhase.ofLaunch, limits]

theorem phase_launch_of_error {path : String} (answer : s.answer = .running path (.ok ()))
    {abort : Abort} (limits : s.call.startingLimits s.now = .error abort) :
    s.launch.call.phase = .aborted abort := by
  simp [launch, ActiveCall.launched, answer, LaunchAnswer.result, LaunchResult.ofOutput,
    Client.launch, CallPhase.ofLaunch, limits]

theorem limits_launch {l : Limits} (limits : s.call.startingLimits s.now = .ok l) :
    s.launch.call.startingLimits s.now = .ok s.launch.call.limits := by
  have same : s.launch.call.startingLimits s.now = s.call.startingLimits s.now := rfl
  rw [same, limits]
  simp [launch, ActiveCall.launched, limits, Except.toOption]

/-- Behind a launch, a client runs or there is none. -/
theorem Standing.launch (record : s.record = .blank) : s.launch.Standing faulty := by
  cases an : s.answer with
  | notFound =>
    refine .unlaunched (.notFound s.call.client.options.program) s.now ?_ ?_ ?_ ?_ <;>
      simp [CallScene.launch, ActiveCall.launched, CallPhase.ofLaunch, LaunchAnswer.result,
        LaunchAnswer.runs, CallRecord.blank, an, record]
  | refused error =>
    refine .unlaunched (.launch s.call.client.options.program error) s.now ?_ ?_ ?_ ?_ <;>
      simp [CallScene.launch, ActiveCall.launched, CallPhase.ofLaunch, LaunchAnswer.result,
        LaunchAnswer.runs, CallRecord.blank, an, record]
  | running path reader =>
    -- The output of a client goes into a pipe, so a client that runs is never left uncaptured.
    have hprocess : s.launch.process = some .running := by
      simp [CallScene.launch, LaunchAnswer.runs, an]
    have hrecord : s.launch.record = ⟨some s.now, 1, 0, none, none⟩ := by
      simp [CallScene.launch, LaunchAnswer.runs, CallRecord.blank, an, record]
    cases reader with
    | ok =>
      cases limits : s.call.startingLimits s.now with
      | ok l =>
        exact .waiting .event .running s.now ⟨path, an⟩ (phase_launch_of_ok an limits) hprocess rfl
          hrecord (limits_launch limits)
      | error abort =>
        exact .aborted abort .running s.now ⟨path, an⟩ (phase_launch_of_error an limits) hprocess
          rfl hrecord limits
    | error error =>
      exact .killing (.io error.message) .running s.now (.inl ⟨path, error, an, rfl⟩) (by
        simp [CallScene.launch, ActiveCall.launched, LaunchAnswer.result, LaunchResult.ofOutput,
          Client.launch, CallPhase.ofLaunch, an]) hprocess rfl hrecord

section Step

variable {fault : Option TurnFault} {p : ClientProcess} {time : Nat} {f : Failure}

/-- A step while the end of the client is awaited. -/
theorem Standing.step_waiting {stage : LookStage}
    (allowed : ∀ error, fault = some (.wait error) → faulty)
    (answer : ∃ path, s.answer = .running path (.ok ())) (phase : s.call.phase = .waiting stage)
    (process : s.process = some p) (left : p.isReaped = false)
    (record : s.record = ⟨some time, 1, 0, none, none⟩)
    (limits : s.call.startingLimits time = .ok s.call.limits) :
    (s.step fault).Standing faulty := by
  have hphase : (s.step fault).call.phase =
      CallPhase.awaitExit s.call.limits stage (s.glance fault) := by
    rw [phase_step, phase]
    rfl
  rcases CallPhase.awaitExit_cases s.call.limits stage (s.glance fault) with
    ⟨status, rfl, hexit, hstep⟩ | ⟨error, rfl, hexit, hstep⟩ |
    ⟨nothing, ⟨stage', -, hstep⟩ | ⟨f, hnext, hstep⟩⟩
  · have hp : p.status? = some status := by simpa [process] using status?_of_exit_glance hexit
    refine .collecting status .event time answer (hphase.trans hstep) ?_ ?_ limits
    · simp [process_step, process, phase, ClientProcess.after, hexit,
        ClientProcess.reap_of_status? hp]
    · simp [record_step, phase, CallRecord.after, hexit, record]
  · have hfaulty : faulty := allowed error (fault_of_exit_glance hexit)
    refine .untold _ p time hfaulty answer (hphase.trans hstep) ?_ left ?_
    · simp [process_step, process, phase, ClientProcess.after, hexit]
    · simp [record_step, phase, CallRecord.after, hexit, record]
  · refine .waiting stage' p time answer (hphase.trans hstep) ?_ left ?_ limits
    · simp [process_step, process, phase, ClientProcess.after_waiting_of_pending nothing]
    · rw [record_step, phase, CallRecord.after_waiting_of_pending nothing, record]
  · refine .killing f p time (.inr ⟨answer, LookStage.isLimit_of_next hnext⟩)
      (hphase.trans hstep) ?_ left ?_
    · simp [process_step, process, phase, ClientProcess.after_waiting_of_pending nothing]
    · rw [record_step, phase, CallRecord.after_waiting_of_pending nothing, record]

theorem Standing.step_killing (cause : s.GivenUp f) (phase : s.call.phase = .killing f)
    (process : s.process = some p) (left : p.isReaped = false)
    (record : s.record = ⟨some time, 1, 0, none, none⟩) : (s.step fault).Standing faulty := by
  refine .reaping f (p.after (.killing f) (s.glance fault) (fault == some .kill)) time cause
    ?_ ?_ (by simpa using left) ?_
  · rw [phase_step, phase]
    rfl
  · simp [process_step, process, phase]
  · simp [record_step, phase, CallRecord.after, record]

/-- A step while the end of a killed client is awaited. -/
theorem Standing.step_reaping (allowed : ∀ error, fault = some (.wait error) → faulty)
    (cause : s.GivenUp f) (phase : s.call.phase = .reaping f) (process : s.process = some p)
    (left : p.isReaped = false) (record : s.record = ⟨some time, 1, 1, none, none⟩) :
    (s.step fault).Standing faulty := by
  have hphase : (s.step fault).call.phase = CallPhase.awaitKilled f (s.glance fault) := by
    rw [phase_step, phase]
    rfl
  have hrecord : (s.step fault).record = ⟨some time, 1, 1, none, none⟩ := by
    rw [record_step, phase, ← record]
    rfl
  rcases s.exit_glance fault with ⟨error, hfault, hexit⟩ | ⟨status, hstatus, hexit⟩ | ⟨-, hexit⟩
  · refine .stopped f p time cause ?_ ?_ (.inr (allowed error hfault)) hrecord
    · rw [hphase, CallPhase.awaitKilled, hexit]
    · simp [process_step, process, phase, ClientProcess.after, hexit]
  · have hp : p.status? = some status := by simpa [process] using hstatus
    refine .stopped f (.reaped status) time cause ?_ ?_ (.inl rfl) hrecord
    · rw [hphase, CallPhase.awaitKilled, hexit]
    · simp [process_step, process, phase, ClientProcess.after, hexit,
        ClientProcess.reap_of_status? hp]
  · refine .reaping f p time cause ?_ ?_ left hrecord
    · rw [hphase, CallPhase.awaitKilled, hexit]
    · simp [process_step, process, phase, ClientProcess.after, hexit]

/-- A step while the output is awaited. -/
theorem Standing.step_collecting {status : ExitStatus} {stage : LookStage}
    (answer : ∃ path, s.answer = .running path (.ok ()))
    (phase : s.call.phase = .collecting status stage)
    (process : s.process = some (.reaped status))
    (record : s.record = ⟨some time, 1, 0, some status, none⟩)
    (limits : s.call.startingLimits time = .ok s.call.limits) :
    (s.step fault).Standing faulty := by
  have hphase : (s.step fault).call.phase =
      CallPhase.awaitLines s.call.limits status stage (s.glance fault) := by
    rw [phase_step, phase]
    rfl
  have hprocess : (s.step fault).process = some (.reaped status) := by
    simp [process_step, process, phase]
  have hnothing (nothing : stage = .event → ∀ lines, (s.glance fault).capture ≠ .lines lines) :
      (s.step fault).record = ⟨some time, 1, 0, some status, none⟩ := by
    rw [record_step, phase, CallRecord.after_collecting_of_ne_lines nothing, record]
  rcases CallPhase.awaitLines_cases s.call.limits status stage (s.glance fault) with
    ⟨lines, rfl, hcapture, hstep⟩ | ⟨f, rfl, hcapture, -, hstep⟩ |
    ⟨nothing, ⟨stage', -, hstep⟩ | ⟨f, hnext, hstep⟩⟩
  · refine .completed status lines time answer (hphase.trans hstep) hprocess hcapture ?_
    simp [record_step, phase, CallRecord.after, hcapture, record]
  · refine .uncollected f status time ?_ answer (hphase.trans hstep) hprocess (hnothing ?_)
    · exact hcapture.elim .inl fun lost => .inr (.inl lost)
    · rcases hcapture with ⟨error, h⟩ | h <;> simp [h]
  · refine .collecting status stage' time answer (hphase.trans hstep) hprocess (hnothing ?_) limits
    intro event lines
    simp [nothing event]
  · refine .uncollected f status time (.inr (.inr (LookStage.isLimit_of_next hnext))) answer
      (hphase.trans hstep) hprocess (hnothing ?_)
    intro event lines
    simp [nothing event]

end Step

/-- A turn of the call leads from one way to stand to another. -/
theorem Standing.turn {fault : Option TurnFault} (h : s.Standing faulty)
    (allowed : ∀ error, fault = some (.wait error) → faulty) : (s.turn fault).Standing faulty := by
  have hconclude (hturn : s.turn fault = s.conclude) : (s.turn fault).Standing faulty := by
    rw [hturn]
    exact h.frame rfl s.call.conclude_eq rfl (fun _ => rfl) (f := id) (by simp [conclude])
      (fun _ => rfl) fun _ => rfl
  have hfinished {ending} (finished : s.call.phase = .finished ending) :
      (s.turn fault).Standing faulty :=
    hconclude (by simp [CallScene.turn, finished])
  cases h with
  | launching phase process record =>
    rw [CallScene.turn, phase]
    exact .launch record
  | waiting stage p time answer phase process left record limits =>
    rw [CallScene.turn, phase]
    exact .step_waiting allowed answer phase process left record limits
  | killing f p time cause phase process left record =>
    rw [CallScene.turn, phase]
    exact .step_killing cause phase process left record
  | reaping f p time cause phase process left record =>
    rw [CallScene.turn, phase]
    exact .step_reaping allowed cause phase process left record
  | collecting status stage time answer phase process record limits =>
    rw [CallScene.turn, phase]
    exact .step_collecting answer phase process record limits
  | unlaunched f time answer phase => exact hfinished phase
  | stopped f p time cause phase => exact hfinished phase
  | untold f p time fault answer phase => exact hfinished phase
  | uncollected f status time cause answer phase => exact hfinished phase
  | completed status lines time answer phase => exact hfinished phase
  | aborted abort p time answer phase => exact hconclude (by simp [CallScene.turn, phase])

/-- No event leads out of the ways to stand. -/
theorem Standing.apply {e : CallEvent} (h : s.Standing faulty)
    (allowed : ∀ error, e = .turn (some (.wait error)) → faulty) :
    (s.apply e).Standing faulty := by
  cases e with
  | exits status =>
    exact h.frame rfl ⟨_, rfl⟩ rfl (fun _ => rfl) (f := ClientProcess.exit status) rfl
      (ClientProcess.isReaped_exit status) (ClientProcess.exit_reaped status)
  | captures capture =>
    refine h.frame rfl ⟨_, rfl⟩ rfl (fun told => ?_) (f := id) (by simp [CallScene.apply])
      (fun _ => rfl) fun _ => rfl
    simp [CallScene.apply, told]
  | cancels =>
    exact h.frame rfl ⟨_, rfl⟩ rfl (fun _ => rfl) (f := id) (by simp [CallScene.apply])
      (fun _ => rfl) fun _ => rfl
  | passes nanos =>
    exact h.frame rfl ⟨_, rfl⟩ rfl (fun _ => rfl) (f := id) (by simp [CallScene.apply])
      (fun _ => rfl) fun _ => rfl
  | turn fault =>
    exact h.turn fun error hfault => allowed error (by rw [hfault])

/-- A call stands in one of the ways at every time of every course. -/
theorem standing_run (answer : LaunchAnswer) (r : CallRequest) {events : List CallEvent}
    (allowed : ∀ error, .turn (some (.wait error)) ∈ events → faulty) :
    ((start answer r).run events).Standing faulty := by
  induction events using List.reverseRecOn with
  | nil => exact .launching rfl rfl rfl
  | append_singleton events e ih =>
    rw [run_append]
    refine (ih fun error here => allowed error (List.mem_append_left _ here)).apply ?_
    exact fun error last => allowed error (by simp [last])

end CallScene

end InspectionHost
