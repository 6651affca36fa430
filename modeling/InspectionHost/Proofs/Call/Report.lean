import InspectionHost.Proofs.Call.GivingUp

/-!
# What a call reports

Until a call has its result nothing is reported for it. Then its ending is concluded once: the
diagnostic of the ending is handed to the sink, if there is one, and the outcome is the result.
With `CallScene.Standing` this tells the diagnostics of a call from what has become of its
client: there is none exactly if the client ended by success and its output was collected.

One call has no ending. If the clock cannot show when its time is over, then the call is aborted
when its client runs already; nothing is reported for it, and the client is left to itself.

## Main definitions

* `CallScene.Answered` : the client was reaped and its output collected.
* `CallScene.Overflows` : the clock cannot show when the time of the call is over.
* `CallScene.Account` : what is reported, and when.
* `CallScene.hands` : what is handed to the sink at an event.

## Main results

* `CallScene.account_run` : the account is right at every time of every course.
* `CallScene.abandons_of_overflow` : what is left of a call whose time overflows the clock.
* `CallScene.diagnostics_of_result` : the result and the diagnostics of a call.
* `CallScene.undiagnosed_of_overflow` : a call that is not reported, and has no outcome.
-/

namespace InspectionHost

theorem CallEnding.conclude_of_ne_refusing {sink : Sink} (listens : sink ≠ .refusing)
    (ending : CallEnding) (program : String) (command : Command) :
    ending.conclude sink program command =
      ⟨(ending.diagnostic? program command).toList, .ok ending.outcome⟩ := by
  cases hd : ending.diagnostic? program command <;> cases sink <;>
    simp_all [CallEnding.conclude, Sink.reportAll, Sink.report, bind, Reported.bind, pure,
      Reported.pure]

namespace CallScene

variable {s : CallScene}

/-- The client of a call has ended and was reaped with a status, and its output was collected. -/
def Answered (s : CallScene) (status : ExitStatus) (lines : List String) : Prop :=
  s.process = some (.reaped status) ∧ s.record.collected = some lines

/-- What the end of the call reports, and its result. -/
def reported (s : CallScene) (ending : CallEnding) : Reported Outcome :=
  ending.conclude s.call.sink s.call.client.options.program s.call.command

/-- The client of the call runs with a reader of its output, and the clock cannot show when the time
of the call is over. -/
def Overflows (s : CallScene) : Prop :=
  ∃ path limit launched, s.answer = .running path (.ok ()) ∧
    s.call.client.options.timeout = some limit ∧ s.record.launchedAt = some launched ∧
    Clock.limit ≤ launched + limit.nanos

/-- What is reported: nothing before the call has its result, and then what its ending says. -/
inductive Account (s : CallScene) : Prop where
  | pending (result : s.call.result = none) (diagnostics : s.diagnostics = [])
  | closed (ending : CallEnding) (phase : s.call.phase = .finished ending)
      (result : s.call.result = some (s.reported ending).result)
      (diagnostics : s.diagnostics = (s.reported ending).diagnostics)
  | aborted (abort : Abort) (phase : s.call.phase = .aborted abort)
      (result : s.call.result = some (.error abort)) (diagnostics : s.diagnostics = [])

/-- A turn reports what the account says, and nothing a second time. -/
theorem Account.turn (h : s.Account) (fault : Option TurnFault) : (s.turn fault).Account := by
  cases h with
  | closed ending phase result diagnostics =>
    have hsame : s.call.conclude = ([], s.call) := ActiveCall.conclude_of_result (by simp [result])
    have hturn : s.turn fault = s := by simp [CallScene.turn, phase, conclude, hsame]
    rw [hturn]
    exact .closed ending phase result diagnostics
  | aborted abort phase result diagnostics =>
    have hsame : s.call.conclude = ([], s.call) := ActiveCall.conclude_of_result (by simp [result])
    have hturn : s.turn fault = s := by simp [CallScene.turn, phase, conclude, hsame]
    rw [hturn]
    exact .aborted abort phase result diagnostics
  | pending result diagnostics =>
    cases phase : s.call.phase with
    | finished ending =>
      have hturn : s.turn fault = s.conclude := by simp [CallScene.turn, phase]
      have hconclude := ActiveCall.conclude_of_finished phase result
      rw [hturn]
      refine .closed ending ?_ ?_ ?_
      · simp [conclude, phase]
      · simp [conclude, hconclude, reported]
      · simp [conclude, hconclude, reported, diagnostics]
    | aborted abort =>
      have hturn : s.turn fault = s.conclude := by simp [CallScene.turn, phase]
      have hconclude := ActiveCall.conclude_of_aborted phase result
      rw [hturn]
      refine .aborted abort ?_ ?_ ?_
      · simp [conclude, phase]
      · simp [conclude, hconclude]
      · simp [conclude, hconclude, diagnostics]
    | _ =>
      refine .pending ?_ ?_ <;>
        simp [CallScene.turn, phase, launch, ActiveCall.launched, step, ActiveCall.advance, result,
          diagnostics]

/-- The account is right at every time of every course. -/
theorem account_run (answer : LaunchAnswer) (r : CallRequest) (events : List CallEvent) :
    ((start answer r).run events).Account := by
  induction events using List.reverseRecOn with
  | nil => exact .pending rfl rfl
  | append_singleton events e ih =>
    rw [run_append, run_cons, run_nil]
    cases e with
    | turn fault => exact ih.turn fault
    | _ =>
      cases ih with
      | pending result diagnostics => exact .pending result diagnostics
      | closed ending phase result diagnostics => exact .closed ending phase result diagnostics
      | aborted abort phase result diagnostics => exact .aborted abort phase result diagnostics

/-- What is handed to the sink at an event: the diagnostic of a call that is over, in a turn. -/
def hands (s : CallScene) : CallEvent → List Diagnostic
  | .turn _ =>
    match s.call.phase with
    | .finished _ | .aborted _ => s.call.conclude.1
    | _ => []
  | .exits _ | .captures _ | .cancels | .passes _ => []

/-- A call that has its outcome is over, and to a sink that takes diagnostics it has reported the
diagnostic of its ending. -/
theorem ending_of_result {answer : LaunchAnswer} {r : CallRequest} {events : List CallEvent}
    {outcome : Outcome} (listens : r.sink ≠ .refusing)
    (returned : ((start answer r).run events).call.result = some (.ok outcome)) :
    ∃ ending, ((start answer r).run events).call.phase = .finished ending ∧
      outcome = ending.outcome ∧ ((start answer r).run events).diagnostics =
        (ending.diagnostic? r.client.options.program r.command).toList := by
  have hrequest : ((start answer r).run events).call.toCallRequest = r := request_run ..
  cases account_run answer r events with
  | pending none _ => simp [none] at returned
  | aborted abort _ given => simp [given] at returned
  | closed ending phase given diagnostics =>
    have hreported : ((start answer r).run events).reported ending =
        ⟨(ending.diagnostic? r.client.options.program r.command).toList, .ok ending.outcome⟩ := by
      rw [reported, hrequest]
      exact CallEnding.conclude_of_ne_refusing listens ..
    refine ⟨ending, phase, ?_, ?_⟩
    · rw [given, hreported] at returned
      exact (Except.ok.inj (Option.some.inj returned)).symm
    · rw [diagnostics, hreported]

theorem exists_starting_of_overflows {answer : LaunchAnswer} {r : CallRequest}
    {events : List CallEvent} (overflows : ((start answer r).run events).Overflows) :
    ∃ path launched, answer = .running path (.ok ()) ∧
      ((start answer r).run events).record.launchedAt = some launched ∧
      Limits.starting r.client.options.timeout r.token.isSome launched =
        .error .clockOverflow := by
  obtain ⟨path, limit, launched, runs, timed, time, beyond⟩ := overflows
  rw [answer_run] at runs
  rw [request_run] at timed
  exact ⟨path, launched, runs, time,
    Limits.starting_eq_error_iff.2 ⟨rfl, limit, timed, beyond⟩⟩

/-- A call that overflows the clock is aborted. Nothing is reported for it, and its client is
neither killed nor reaped. -/
theorem abandons_of_overflow {answer : LaunchAnswer} {r : CallRequest} {events : List CallEvent}
    {result : Except Abort Outcome} (overflows : ((start answer r).run events).Overflows)
    (returned : ((start answer r).run events).call.result = some result) :
    let s := (start answer r).run events
    result = .error .clockOverflow ∧ s.diagnostics = [] ∧ s.record.launches = 1 ∧
      s.record.kills = 0 ∧ ∃ p : ClientProcess, s.process = some p ∧ p.isReaped = false := by
  intro s
  obtain ⟨path, launched, rfl, time, fails⟩ := exists_starting_of_overflows overflows
  have phase : s.call.phase = .aborted .clockOverflow :=
    phase_run_of_error path r events launched time .clockOverflow fails
  have hstanding : s.Standing True := standing_run _ r fun _ _ => trivial
  obtain ⟨-, left, _, record, -⟩ := hstanding.of_aborted phase
  cases account_run (.running path (.ok ())) r events with
  | pending none _ => simp [none] at returned
  | closed ending finished => simp [s, finished] at phase
  | aborted abort same given diagnostics =>
    obtain rfl : abort = .clockOverflow := CallPhase.aborted.inj (same.symm.trans phase)
    rw [given] at returned
    exact ⟨(Option.some.inj returned).symm, diagnostics, by rw [record], by rw [record], left⟩

/-- A call that does not overflow the clock brings an outcome, if its sink takes diagnostics. -/
theorem exists_outcome_of_result {answer : LaunchAnswer} {r : CallRequest}
    {events : List CallEvent} {result : Except Abort Outcome} (listens : r.sink ≠ .refusing)
    (returned : ((start answer r).run events).call.result = some result)
    (inside : ¬ ((start answer r).run events).Overflows) : ∃ outcome, result = .ok outcome := by
  have hrequest : ((start answer r).run events).call.toCallRequest = r := request_run ..
  cases account_run answer r events with
  | pending none _ => simp [none] at returned
  | closed ending phase given =>
    rw [given, reported, hrequest, CallEnding.conclude_of_ne_refusing listens] at returned
    exact ⟨_, (Option.some.inj returned).symm⟩
  | aborted abort phase =>
    have hstanding : ((start answer r).run events).Standing True :=
      standing_run answer r fun _ _ => trivial
    obtain ⟨⟨path, runs⟩, -, launched, record, fails⟩ := hstanding.of_aborted phase
    obtain ⟨-, limit, timed, beyond⟩ := Limits.starting_eq_error_iff.1 fails
    exact (inside ⟨path, limit, launched, runs, timed, by rw [record], beyond⟩).elim

/-- A call that is over is answered exactly if its ending says so. -/
theorem answered_iff {ending : CallEnding} (h : s.Standing True)
    (finished : s.call.phase = .finished ending) (status : ExitStatus) (lines : List String) :
    s.Answered status lines ↔ ending = .completed status lines := by
  have hfailed {f} (phase : s.call.phase = .finished (.failed f))
      (none : s.record.collected = none) :
      s.Answered status lines ↔ ending = .completed status lines := by
    have hending : ending = .failed f := by simpa [phase] using finished.symm
    simp [Answered, none, hending]
  cases h with
  | launching phase | waiting _ _ _ _ phase | killing _ _ _ _ phase | reaping _ _ _ _ phase
  | collecting _ _ _ _ phase | aborted _ _ _ _ phase => simp [phase] at finished
  | unlaunched _ _ _ phase _ record | stopped _ _ _ _ phase _ _ record
  | untold _ _ _ _ _ phase _ _ record | uncollected _ _ _ _ _ phase _ record =>
    exact hfailed phase (by rw [record])
  | completed found collected _ _ phase process _ record =>
    have hending : ending = .completed found collected := by simpa [phase] using finished.symm
    simp [Answered, process, record, hending]

/-- The output of a call that is over has not come in time, if the end of its client was found and
the output could be read but was not collected. -/
theorem isLimit_of_uncollected {ending : CallEnding} (h : s.Standing True)
    (finished : s.call.phase = .finished ending) {status : ExitStatus}
    (found : s.record.found = some status) (uncollected : s.record.collected = none)
    (readable : ∀ error, s.capture ≠ .failed error) (kept : s.capture ≠ .lost) :
    ∃ f : Failure, ending = .failed f ∧ f.IsLimit := by
  cases h with
  | launching phase | waiting _ _ _ _ phase | killing _ _ _ _ phase | reaping _ _ _ _ phase
  | collecting _ _ _ _ phase | aborted _ _ _ _ phase => simp [phase] at finished
  | unlaunched _ _ _ _ _ record | stopped _ _ _ _ _ _ _ record
  | untold _ _ _ _ _ _ _ _ record => simp [record] at found
  | completed _ _ _ _ _ _ _ record => simp [record] at uncollected
  | uncollected f _ _ cause _ phase =>
    refine ⟨f, by simpa [phase] using finished.symm, ?_⟩
    rcases cause with ⟨error, failed⟩ | lost | limit
    · exact (readable error failed).elim
    · exact (kept lost).elim
    · exact limit

/-- **What a call reports.** Let a call have its result, for any request, any launch and any course
of events, and let its sink take diagnostics.

If the clock cannot show when the time of the call is over, then the call is aborted once its client
runs. Nothing is reported, and the client is neither killed nor reaped. Otherwise:

* Nothing is reported exactly if the client was reaped with the exit code zero and its output was
  collected; otherwise one diagnostic is.
* The result is an output exactly if the client was reaped and its output collected. Then it is
  the text of the lines, and any other status is reported with the program and the subcommand.
* Otherwise the result is a failure, and the diagnostic has its kind and its reason.
* A client that was found to have ended, by whatever status, and whose output could be read but
  was not collected in time, is reported only as timed out or as cancelled. -/
theorem diagnostics_of_result (answer : LaunchAnswer) (r : CallRequest) (events : List CallEvent)
    (listens : r.sink ≠ .refusing) {result : Except Abort Outcome}
    (returned : ((start answer r).run events).call.result = some result) :
    let s := (start answer r).run events
    (s.Overflows → result = .error .clockOverflow ∧ s.diagnostics = [] ∧ s.record.launches = 1 ∧
      s.record.kills = 0 ∧ ∃ p : ClientProcess, s.process = some p ∧ p.isReaped = false) ∧
    (¬ s.Overflows → ∃ outcome, result = .ok outcome ∧
      (s.diagnostics = [] ↔ ∃ lines, s.Answered (.code 0) lines) ∧
      (s.diagnostics ≠ [] → s.diagnostics.length = 1) ∧
      ((∃ text, outcome = .output text) ↔ ∃ status lines, s.Answered status lines) ∧
      (∀ status lines, s.Answered status lines → outcome = .output (joinLines lines) ∧
        (status ≠ .code 0 → s.diagnostics = [⟨.clientExitCode, "'" ++ r.client.options.program ++
          " " ++ r.command.subcommand ++ "' " ++ status.describe⟩])) ∧
      ((¬ ∃ status lines, s.Answered status lines) → ∃ f, outcome = .failure f ∧
        s.diagnostics = [⟨f.kind.diagnosticKind, f.reason⟩]) ∧
      (∀ status, s.record.found = some status → s.record.collected = none →
        (∀ error, s.capture ≠ .failed error) → s.capture ≠ .lost →
        ∃ d, s.diagnostics = [d] ∧ (d.kind = .clientCancelled ∨ d.kind = .clientTimedOut))) := by
  intro s
  refine ⟨fun overflows => abandons_of_overflow overflows returned, fun inside => ?_⟩
  obtain ⟨outcome, rfl⟩ := exists_outcome_of_result listens returned inside
  refine ⟨outcome, rfl, ?_⟩
  obtain ⟨ending, phase, rfl, hdiagnostics⟩ := ending_of_result listens returned
  have hstanding : s.Standing True := standing_run answer r fun _ _ => trivial
  have hanswered := answered_iff hstanding phase
  cases ending with
  | completed status lines =>
    have hiff (status' : ExitStatus) (lines' : List String) :
        s.Answered status' lines' ↔ status = status' ∧ lines = lines' := by
      rw [hanswered, CallEnding.completed.injEq]
    have hnone : s.diagnostics = [] ↔ status = .code 0 := by
      rw [hdiagnostics, ← ExitStatus.isSuccess_iff]
      cases success : status.isSuccess <;> simp [CallEnding.diagnostic?, success]
    have hsome (failed : status ≠ .code 0) :
        s.diagnostics = [CallEnding.exitDiagnostic r.client.options.program r.command status] := by
      have hstatus : status.isSuccess = false :=
        Bool.eq_false_iff.2 (mt (ExitStatus.isSuccess_iff status).1 failed)
      rw [hdiagnostics]
      simp [CallEnding.diagnostic?, hstatus]
    refine ⟨?_, fun reported => ?_, ?_, ?_, ?_, ?_⟩
    · simp [hnone, hiff]
    · rw [hsome (mt hnone.2 reported)]
      rfl
    · simp [hiff, CallEnding.outcome, Outcome.ofLines]
    · rintro status' lines' answered
      obtain ⟨rfl, rfl⟩ := (hiff _ _).1 answered
      exact ⟨rfl, hsome⟩
    · exact fun unanswered => (unanswered ⟨status, lines, (hiff _ _).2 ⟨rfl, rfl⟩⟩).elim
    · intro status' _ uncollected readable kept
      have hcollected : s.record.collected = some lines := ((hiff _ _).2 ⟨rfl, rfl⟩).2
      simp [hcollected] at uncollected
  | failed f =>
    have hnot (status : ExitStatus) (lines : List String) : ¬ s.Answered status lines := by
      simp [hanswered]
    have hone : s.diagnostics = [⟨f.kind.diagnosticKind, f.reason⟩] := by
      rw [hdiagnostics]
      rfl
    refine ⟨?_, fun _ => ?_, ?_, ?_, ?_, ?_⟩
    · simp [hone, hnot]
    · simp [hone]
    · simp [hnot, CallEnding.outcome]
    · exact fun status lines answered => (hnot status lines answered).elim
    · exact fun _ => ⟨f, rfl, hone⟩
    · intro status found uncollected readable kept
      obtain ⟨g, hg, limit⟩ :=
        isLimit_of_uncollected hstanding phase found uncollected readable kept
      obtain rfl : f = g := CallEnding.failed.inj hg
      exact ⟨_, hone, limit.diagnosticKind⟩

/-- A client ends with the exit code three while something else keeps its output open. The call
is given up for its time, and that is all that is reported. -/
theorem diagnostics_of_late_output :
    let r : CallRequest := ⟨.ofOptions ⟨"client", some ⟨30⟩, none⟩, .parse "a", .channel, none⟩
    let s := (start (.running "client" (.ok ())) r).run
      [.turn none, .exits (.code 3), .turn none, .turn none, .passes 30, .turn none, .turn none,
        .turn none]
    s.call.result = some (.ok (.failure (.timedOut ⟨30⟩))) ∧
      s.record.found = some (.code 3) ∧
      ∃ d, s.diagnostics = [d] ∧ (d.kind = .clientCancelled ∨ d.kind = .clientTimedOut) := by
  intro r s
  have returned : s.call.result = some (.ok (.failure (.timedOut ⟨30⟩))) := rfl
  have inside : ¬ s.Overflows := by
    rintro ⟨path, limit, launched, -, timed, time, beyond⟩
    obtain rfl : ⟨30⟩ = limit := Option.some.inj timed
    obtain rfl : 0 = launched := Option.some.inj time
    exact absurd beyond (by decide)
  obtain ⟨outcome, -, -, -, -, -, -, late⟩ :=
    (diagnostics_of_result (.running "client" (.ok ())) r _ (by decide) returned).2 inside
  refine ⟨returned, rfl, late (.code 3) rfl rfl (fun error => ?_) ?_⟩
  · exact fun failed => Capture.noConfusion failed
  · exact fun lost => Capture.noConfusion lost

/-- The greatest time limit that settings can have. The client is started and answers, and the call
neither has an outcome nor reports anything. -/
theorem undiagnosed_of_overflow :
    let r : CallRequest :=
      ⟨.ofOptions ⟨"client", some (.ofSeconds 18446744073709551615), none⟩, .parse "a", .channel,
        none⟩
    let s := (start (.running "client" (.ok ())) r).run
      [.turn none, .captures (.lines ["OK"]), .exits (.code 0), .turn none, .turn none]
    s.call.result = some (.error .clockOverflow) ∧ s.process = some (.ended (.code 0)) ∧
      ¬ (s.diagnostics = [] ↔ ∃ lines, s.Answered (.code 0) lines) := by
  intro r s
  have returned : s.call.result = some (.error .clockOverflow) := by decide +kernel
  have process : s.process = some (.ended (.code 0)) := by decide +kernel
  have silent : s.diagnostics = [] := by decide +kernel
  have unanswered : ¬ ∃ lines, s.Answered (.code 0) lines := by
    rintro ⟨lines, reaped, -⟩
    simp [process] at reaped
  exact ⟨returned, process, fun same => unanswered (same.1 silent)⟩

end CallScene

end InspectionHost
