import InspectionHost.Proofs.Call.Report

/-!
# The process of a client

A call that launches a client starts one process, and is over only when that process has ended
and is reaped. It kills the process once if it gives the client up before it has found its end,
or if it cannot read the output, and never otherwise. In particular a client that was found to
have ended is not killed any more, also when its output does not come and the call is given up
for that.

All this holds where the system tells how a process is whenever it is asked, whether or not it
kills a process when it is asked to.

## Main results

* `CallScene.found_run` : what was found to have ended stays so.
* `CallScene.kills_eq_zero_of_found` : a client that was found to have ended is not killed.
* `CallScene.process_of_course` : the process of a client along a course.
-/

namespace InspectionHost

namespace CallScene

variable {s : CallScene}

/-- What was found to have ended stays so. -/
theorem found_run (events : List CallEvent) (h : s.record.found.isSome) :
    (s.run events).record.found.isSome := by
  induction events generalizing s with
  | nil => exact h
  | cons e events ih =>
    refine ih ?_
    cases e with
    | turn fault => exact found_turn h fault
    | _ => exact h

/-- A client that was found to have ended is not killed. -/
theorem Standing.kills_eq_zero_of_found {faulty : Prop} (h : s.Standing faulty)
    (found : s.record.found.isSome) : s.record.kills = 0 := by
  cases h with
  | launching _ _ record => simp [record, CallRecord.blank]
  | unlaunched _ _ _ _ _ record | waiting _ _ _ _ _ _ _ record | killing _ _ _ _ _ _ _ record
  | untold _ _ _ _ _ _ _ _ record | collecting _ _ _ _ _ _ record
  | uncollected _ _ _ _ _ _ _ record | completed _ _ _ _ _ _ _ record
  | aborted _ _ _ _ _ _ _ record => simp [record]
  | reaping _ _ _ _ _ _ _ record | stopped _ _ _ _ _ _ _ record => simp [record] at found

/-- What a call that is over has done to the process that it started, where the system tells how a
process is: the process is reaped, and it was killed or its end was found. -/
theorem Standing.process_of_finished (h : s.Standing False) (runs : s.answer.runs)
    {ending : CallEnding} (finished : s.call.phase = .finished ending) :
    (∃ status, s.process = some (.reaped status)) ∧ s.record.launches = 1 ∧
      ((s.record.kills = 1 ∧ s.record.found = none ∧ ∃ f, ending = .failed f ∧ s.GivenUp f) ∨
        (s.record.kills = 0 ∧ s.record.found.isSome ∧
          ∃ path, s.answer = .running path (.ok ()))) := by
  cases h with
  | launching phase | waiting _ _ _ _ phase | killing _ _ _ _ phase | reaping _ _ _ _ phase
  | collecting _ _ _ _ phase | aborted _ _ _ _ phase => simp [phase] at finished
  | unlaunched _ _ answer => simp [answer] at runs
  | untold _ _ _ fault => exact fault.elim
  | stopped f p _ cause phase process gone record =>
    have hending : ending = .failed f := by simpa [phase] using finished.symm
    have hreaped : ∃ status, p = .reaped status := by
      cases p <;> simp_all [ClientProcess.isReaped]
    refine ⟨?_, by rw [record], .inl ⟨by rw [record], by rw [record], f, hending, cause⟩⟩
    obtain ⟨status, rfl⟩ := hreaped
    exact ⟨status, process⟩
  | uncollected _ status _ _ answer _ process record =>
    exact ⟨⟨status, process⟩, by rw [record], .inr ⟨by rw [record], by rw [record]; rfl, answer⟩⟩
  | completed status _ _ answer _ process _ record =>
    exact ⟨⟨status, process⟩, by rw [record], .inr ⟨by rw [record], by rw [record]; rfl, answer⟩⟩

/-- **The process of a client.** Let a client be launched, whether or not a reader of its output
can be made, and let the system always tell how the process is. Then for every request and every
course of events:

* Once the end of the client is found, the client is not killed up to the end of the course.
* A call that has its result is over, unless the clock cannot show when its time is over and the
  call is aborted for that. When it is over, one process was started for it, and that process has
  ended and is reaped.
* The process was killed exactly if no reader could be made, or if the call was given up for its
  time or its token before the end of the client was found, and it was killed once at most. -/
theorem process_of_course (r : CallRequest) (path : String) (reader : Except IoError Unit)
    (events : List CallEvent) (told : ∀ error, .turn (some (.wait error)) ∉ events) :
    let s := (start (.running path reader) r).run events
    (∀ before after, events = before ++ after →
      ((start (.running path reader) r).run before).record.found.isSome → s.record.kills = 0) ∧
    (s.call.result.isSome → (∃ ending, s.call.phase = .finished ending) ∨
      s.call.result = some (.error .clockOverflow) ∧ s.Overflows) ∧
    (∀ ending, s.call.phase = .finished ending →
      s.record.launches = 1 ∧ (∃ status, s.process = some (.reaped status)) ∧
        s.record.kills ≤ 1 ∧
        (0 < s.record.kills ↔ (∃ error, reader = .error error) ∨
          ∃ f, ending = .failed f ∧ (f.kind = .timedOut ∨ f.kind = .cancelled) ∧
            s.record.found = none)) := by
  intro s
  have hstanding : s.Standing False := standing_run _ r fun error fault => told error fault
  have hanswer : s.answer = .running path reader := answer_run ..
  refine ⟨?_, ?_, ?_⟩
  · rintro before after rfl found
    refine hstanding.kills_eq_zero_of_found ?_
    have hsplit : s = ((start (.running path reader) r).run before).run after := run_append ..
    rw [hsplit]
    exact found_run after found
  · intro returned
    cases account_run (.running path reader) r events with
    | pending none => simp [s, none] at returned
    | closed ending phase => exact .inl ⟨ending, phase⟩
    | aborted abort phase result =>
      obtain ⟨⟨path, runs⟩, -, launched, record, fails⟩ := hstanding.of_aborted phase
      obtain ⟨rfl, limit, timed, beyond⟩ := Limits.starting_eq_error_iff.1 fails
      exact .inr ⟨result, path, limit, launched, runs, timed, by rw [record], beyond⟩
  · intro ending finished
    obtain ⟨reaped, launches, ⟨kills, found, f, rfl, cause⟩ | ⟨kills, found, path', answer⟩⟩ :=
      hstanding.process_of_finished (by rw [hanswer]; rfl) finished
    · refine ⟨launches, reaped, by omega, iff_of_true (by omega) ?_⟩
      rcases cause with ⟨path', error, answer, -⟩ | ⟨-, limit⟩
      · exact .inl ⟨error, (LaunchAnswer.running.inj (hanswer.symm.trans answer)).2⟩
      · refine .inr ⟨f, rfl, ?_, found⟩
        rcases limit with rfl | ⟨limit, rfl⟩
        · exact .inr rfl
        · exact .inl rfl
    · refine ⟨launches, reaped, by omega, iff_of_false (by omega) ?_⟩
      rintro (⟨error, rfl⟩ | ⟨f, -, -, unfound⟩)
      · exact nomatch (LaunchAnswer.running.inj (hanswer.symm.trans answer)).2
      · simp [unfound] at found

/-- A call is cancelled while its client runs, and the system does not kill the client. The call
is over only when the client has ended by itself. -/
theorem process_of_course_kill_refused :
    let r : CallRequest := ⟨.ofOptions ⟨"client", none, none⟩, .parse "a", .channel, some 0⟩
    let s := (start (.running "client" (.ok ())) r).run
      [.turn none, .turn none, .cancels, .turn none, .turn (some .kill), .turn none,
        .exits (.code 0), .turn none, .turn none]
    s.call.result = some (.ok (.failure .cancelled)) ∧ s.record.kills = 1 ∧
      s.record.launches = 1 ∧ ∃ status, s.process = some (.reaped status) := by
  intro r s
  obtain ⟨-, -, finished⟩ :=
    process_of_course r "client" (.ok ()) [.turn none, .turn none, .cancels, .turn none,
      .turn (some .kill), .turn none, .exits (.code 0), .turn none, .turn none] (by simp)
  obtain ⟨launches, reaped, -, -⟩ := finished (.failed .cancelled) rfl
  exact ⟨rfl, rfl, launches, reaped⟩

end CallScene

end InspectionHost
