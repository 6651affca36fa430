import InspectionHost.Proofs.Server.Observation

/-!
# Reports come before exits

The thread of a supervisor reports how the session has come to its end, and only then sends the
exit. Whoever is told of an exit is told so behind the report: by then everything that the thread
will ever report has been reported. What that is goes with the exit: nothing for a server that has
ended by success, and one diagnostic for anything else.

## Main definitions

* `SessionEnd.Came` : the end of a session is what the events have brought.
* `ServerExit.Reports` : the diagnostics that go with an exit.
* `ServerScene.Booked` : the invariant on what is reported.
* `ServerScene.hands` : what is handed to the sink at an event.

## Main results

* `SessionEnd.reports_exit` : the diagnostics of a session go with its exit.
* `ServerScene.booked_run` : the invariant holds behind events.
* `ServerScene.session_of_told` : who is told of an exit is told of a session that is reported.
-/

namespace InspectionHost

/-! ### Sessions and their diagnostics -/

namespace SessionEnd

/-- The end of a session of a program is what the events have brought. -/
inductive Came {n : Nat} (program : String) (events : List (ServerEvent n)) :
    SessionEnd → Prop where
  /-- The program was looked up and not found. -/
  | unresolved (missing : .resolve none ∈ events) :
      Came program events (.failed (.notFound program))
  /-- The launch was refused. -/
  | refused {error : IoError} (launch : .spawn (.error error) ∈ events) :
      Came program events (.failed (.launch program error))
  /-- The server has ended. -/
  | ended {status : ExitStatus} (seen : .awaited (.ok status) ∈ events) :
      Came program events (.ended status)
  /-- The system could not tell how the server ended. -/
  | unseen {error : IoError} (blind : .awaited (.error error) ∈ events) :
      Came program events (.unseen error)

/-- To a sink that takes diagnostics, the end of a session is reported by its diagnostic, and then
its exit is known. -/
theorem reported_of_ne_refusing {s : Supervisor} (listens : s.sink ≠ .refusing) (e : SessionEnd) :
    e.reported s = ⟨(e.diagnostic? s.program).toList, .ok (e.exit s.program)⟩ := by
  rw [reported_eq]
  cases hd : e.diagnostic? s.program <;> cases hsink : s.sink <;>
    simp_all [Sink.reportAll, Sink.report, bind, Reported.bind, pure, Reported.pure]

theorem diagnostic?_of_mem_reported {s : Supervisor} {e : SessionEnd} {d : Diagnostic}
    (h : d ∈ (e.reported s).diagnostics) : e.diagnostic? s.program = some d := by
  rw [reported_eq] at h
  cases hd : e.diagnostic? s.program <;> cases hsink : s.sink <;>
    simp_all [Sink.reportAll, Sink.report, bind, Reported.bind, pure, Reported.pure]

end SessionEnd

/-- The diagnostics that go with the exit of a session of a program. -/
inductive ServerExit.Reports (program : String) : ServerExit → List Diagnostic → Prop where
  | success : Reports program (.exited (some 0)) []
  | code (n : Nat) (failure : n ≠ 0) : Reports program (.exited (some n))
      [⟨.serverExited, "'" ++ program ++ "' " ++ ("exited with code " ++ Text.Decimal.print n)⟩]
  | signal (n : Nat) : Reports program (.exited none)
      [⟨.serverExited, "'" ++ program ++ "' " ++ ("terminated by signal " ++ Text.Decimal.print n)⟩]
  | launchFailed (reason : String) : Reports program (.launchFailed reason)
      [⟨.serverLaunchFailed, reason⟩]
  | waitFailed (reason : String) : Reports program (.waitFailed reason) [⟨.serverExited, reason⟩]

theorem ServerExit.Reports.isSuccess_iff {program : String} {exit : ServerExit}
    {ds : List Diagnostic} (reports : exit.Reports program ds) :
    exit.isSuccess = true ↔ ds = [] := by
  cases reports with
  | code n failure => simp [isSuccess, failure]
  | _ => simp [isSuccess]

/-- The diagnostics of a session go with its exit. -/
theorem SessionEnd.reports_exit (program : String) (e : SessionEnd) :
    (e.exit program).Reports program (e.diagnostic? program).toList := by
  cases e with
  | failed failure => exact .launchFailed failure.reason
  | unseen error => exact .waitFailed _
  | ended status =>
    cases status with
    | signal n => exact .signal n
    | code n =>
      by_cases success : n = 0
      · subst success
        exact .success
      · have hfailure : (ExitStatus.code n).isSuccess = false := by
          simpa [ExitStatus.isSuccess] using success
        rw [diagnostic?, Supervisor.exitDiagnostic?, hfailure]
        exact .code n success

/-- Whether an event is a step of an observer, or the drop of the handle. -/
def ServerEvent.isObserver {n : Nat} : ServerEvent n → Bool
  | ask _ _ | receive _ _ | settle _ | drop => true
  | _ => false

namespace ServerScene

variable {n : Nat} {s t : ServerScene n} {program : String} {events : List (ServerEvent n)}

/-! ### What is reported -/

/-- Where the thread stands with the end of a session that it has reported. -/
def Concluded (s : ServerScene n) (session : SessionEnd) : Prop :=
  s.thread = .sending session ∨ s.thread = .closing session ∨ s.thread = .gone session

/-- What is reported: nothing before the end of the session, and then its diagnostic. The end of the
session is what the events have brought. -/
inductive Booked (program : String) (events : List (ServerEvent n)) (s : ServerScene n) : Prop where
  /-- The thread is at work on the launch, or the server runs. -/
  | underway (thread : s.thread = .resolving ∨ (∃ path, s.thread = .launching path) ∨
      s.thread = .watching) (reports : s.reports = [])
  /-- The end of the session is to be reported. -/
  | due (session : SessionEnd) (thread : s.thread = .reporting session)
      (came : session.Came program events) (reports : s.reports = [])
  /-- The end of the session is reported. -/
  | closed (session : SessionEnd) (concluded : s.Concluded session)
      (came : session.Came program events)
      (reports : s.reports = (session.diagnostic? program).toList)

theorem booked_start (directory : Option String) (sink : Sink) :
    (start program directory sink n).Booked program events :=
  .underway (.inl rfl) rfl

/-- What is reported depends on nothing but the thread. -/
theorem Booked.frame (booked : s.Booked program events) (thread : t.thread = s.thread)
    (reports : t.reports = s.reports) : t.Booked program events := by
  cases booked with
  | underway stands nothing => exact .underway (by rwa [thread]) (reports.trans nothing)
  | due session stands came nothing =>
    exact .due session (thread.trans stands) came (reports.trans nothing)
  | closed session stands came told =>
    exact .closed session (by rwa [Concluded, thread]) came (reports.trans told)

theorem Booked.reports_of_not_concluded (booked : s.Booked program events)
    (before : ∀ session, ¬ s.Concluded session) : s.reports = [] := by
  cases booked with
  | underway _ reports | due _ _ _ reports => exact reports
  | closed session concluded => exact (before session concluded).elim

/-- Behind a step of an observer the thread stands where it stood, and nothing more is reported. -/
theorem thread_of_isObserver {event : ServerEvent n} (moved : s.step? event = some t)
    (observer : event.isObserver = true) : t.thread = s.thread ∧ t.reports = s.reports := by
  cases event with
  | resolve path | spawn launched | awaited seen | report | send | finish => contradiction
  | ask i q =>
    obtain ⟨-, k, -, rfl⟩ := ask?_eq_some.1 moved
    cases k.cell <;> exact ⟨rfl, rfl⟩
  | receive i expired =>
    obtain ⟨_, _, -, -, ⟨_, -, rfl⟩ | ⟨-, -, rfl⟩ | ⟨-, -, -, rfl⟩⟩ := receive?_eq_some.1 moved <;>
      exact ⟨rfl, rfl⟩
  | settle i =>
    obtain ⟨_, _, _, -, -, rfl⟩ := settle?_eq_some.1 moved
    exact ⟨rfl, rfl⟩
  | drop =>
    obtain ⟨-, rfl⟩ := drop?_eq_some.1 moved
    exact ⟨rfl, rfl⟩

/-- What is handed to the sink at an event: what the thread reports. -/
def hands (s : ServerScene n) : ServerEvent n → List Diagnostic
  | .report =>
    match s.thread with
    | .reporting session => (session.reported s.supervisor).diagnostics
    | _ => []
  | _ => []

/-- What is handed to the sink stands behind what was handed before. -/
theorem reports_step {event : ServerEvent n} (moved : s.step? event = some t) :
    t.reports = s.reports ++ s.hands event := by
  cases event with
  | resolve path =>
    obtain ⟨-, rfl⟩ := resolve?_eq_some.1 moved
    exact (List.append_nil _).symm
  | spawn launched =>
    obtain ⟨-, rfl⟩ := spawn?_eq_some.1 moved
    cases launched <;> exact (List.append_nil _).symm
  | awaited seen =>
    obtain ⟨-, rfl⟩ := awaited?_eq_some.1 moved
    exact (List.append_nil _).symm
  | report =>
    obtain ⟨session, thread, rfl⟩ := report?_eq_some.1 moved
    simp only [hands, thread]
  | send =>
    obtain ⟨_, _, -, -, -, rfl⟩ := send?_eq_some.1 moved
    exact (List.append_nil _).symm
  | finish =>
    obtain ⟨_, -, rfl⟩ := finish?_eq_some.1 moved
    exact (List.append_nil _).symm
  | ask i q | receive i expired | settle i | drop =>
    obtain ⟨-, reports⟩ := thread_of_isObserver moved rfl
    rw [reports]
    exact (List.append_nil _).symm

/-- What is reported is right behind every event. -/
theorem Booked.step {event : ServerEvent n} (booked : s.Booked program events)
    (named : s.supervisor.program = program) (listens : s.supervisor.sink ≠ .refusing)
    (happens : event ∈ events) (moved : s.step? event = some t) : t.Booked program events := by
  subst named
  cases event with
  | resolve path =>
    obtain ⟨thread, rfl⟩ := resolve?_eq_some.1 moved
    have nothing : s.reports = [] := booked.reports_of_not_concluded (by simp [Concluded, thread])
    cases path with
    | some path => exact .underway (.inr (.inl ⟨path, rfl⟩)) nothing
    | none => exact .due _ rfl (.unresolved happens) nothing
  | spawn launched =>
    obtain ⟨⟨path, thread⟩, rfl⟩ := spawn?_eq_some.1 moved
    have nothing : s.reports = [] := booked.reports_of_not_concluded (by simp [Concluded, thread])
    cases launched with
    | ok process => exact .underway (.inr (.inr rfl)) nothing
    | error error => exact .due _ rfl (.refused happens) nothing
  | awaited seen =>
    obtain ⟨thread, rfl⟩ := awaited?_eq_some.1 moved
    have nothing : s.reports = [] := booked.reports_of_not_concluded (by simp [Concluded, thread])
    cases seen with
    | ok status => exact .due _ rfl (.ended happens) nothing
    | error error => exact .due _ rfl (.unseen happens) nothing
  | report =>
    obtain ⟨session, thread, rfl⟩ := report?_eq_some.1 moved
    cases booked with
    | underway stands => simp [thread] at stands
    | closed _ concluded => simp [Concluded, thread] at concluded
    | due session' thread' came nothing =>
      obtain rfl : session = session' := by simpa [thread] using thread'
      have reported := SessionEnd.reported_of_ne_refusing listens session
      refine .closed session (.inl ?_) came ?_
      · simp [result, reported]
      · simp [nothing, reported]
  | send =>
    obtain ⟨session, exit, thread, -, -, rfl⟩ := send?_eq_some.1 moved
    cases booked with
    | underway stands => simp [thread] at stands
    | due _ thread' => simp [thread] at thread'
    | closed session' concluded came told =>
      obtain rfl : session = session' := by simpa [Concluded, thread] using concluded
      exact .closed session (.inr (.inl rfl)) came told
  | finish =>
    obtain ⟨session, thread, rfl⟩ := finish?_eq_some.1 moved
    cases booked with
    | underway stands => simp [thread] at stands
    | due _ thread' => simp [thread] at thread'
    | closed session' concluded came told =>
      obtain rfl : session = session' := by simpa [Concluded, thread] using concluded
      exact .closed session (.inr (.inr rfl)) came told
  | ask i q | receive i expired | settle i | drop =>
    obtain ⟨thread, reports⟩ := thread_of_isObserver moved rfl
    exact booked.frame thread reports

/-- What is reported is right behind events. -/
theorem booked_run {later : List (ServerEvent n)} (booked : s.Booked program events)
    (named : s.supervisor.program = program) (listens : s.supervisor.sink ≠ .refusing)
    (happen : later ⊆ events) (moved : s.run? later = some t) : t.Booked program events := by
  induction later generalizing s with
  | nil =>
    obtain rfl := Option.some.inj moved
    exact booked
  | cons event rest ih =>
    obtain ⟨next, hstep, hrest⟩ := Option.bind_eq_some_iff.1 moved
    obtain ⟨hfirst, hlater⟩ := List.cons_subset.1 happen
    obtain ⟨hprogram, hsink⟩ := supervisor_step hstep
    exact ih (booked.step named listens hfirst hstep) (hprogram.trans named)
      (by rwa [hsink]) hlater hrest

/-! ### What stays reported -/

/-- A session that is concluded stays so, and nothing more is reported. -/
theorem Concluded.step {session : SessionEnd} {event : ServerEvent n}
    (concluded : s.Concluded session) (moved : s.step? event = some t) :
    t.Concluded session ∧ t.reports = s.reports := by
  cases event with
  | resolve path =>
    obtain ⟨thread, -⟩ := resolve?_eq_some.1 moved
    simp [Concluded, thread] at concluded
  | spawn launched =>
    obtain ⟨⟨path, thread⟩, -⟩ := spawn?_eq_some.1 moved
    simp [Concluded, thread] at concluded
  | awaited seen =>
    obtain ⟨thread, -⟩ := awaited?_eq_some.1 moved
    simp [Concluded, thread] at concluded
  | report =>
    obtain ⟨session', thread, -⟩ := report?_eq_some.1 moved
    simp [Concluded, thread] at concluded
  | send =>
    obtain ⟨session', exit, thread, -, -, rfl⟩ := send?_eq_some.1 moved
    obtain rfl : session' = session := by simpa [Concluded, thread] using concluded
    exact ⟨.inr (.inl rfl), rfl⟩
  | finish =>
    obtain ⟨session', thread, rfl⟩ := finish?_eq_some.1 moved
    obtain rfl : session' = session := by simpa [Concluded, thread] using concluded
    exact ⟨.inr (.inr rfl), rfl⟩
  | ask i q | receive i expired | settle i | drop =>
    obtain ⟨thread, reports⟩ := thread_of_isObserver moved rfl
    exact ⟨by rwa [Concluded, thread], reports⟩

/-- Behind the end of a session nothing more is ever reported. -/
theorem Concluded.reports_run {session : SessionEnd} {later : List (ServerEvent n)}
    (concluded : s.Concluded session) (moved : s.run? later = some t) : t.reports = s.reports := by
  induction later generalizing s with
  | nil =>
    obtain rfl := Option.some.inj moved
    rfl
  | cons event rest ih =>
    obtain ⟨next, hstep, hrest⟩ := Option.bind_eq_some_iff.1 moved
    obtain ⟨hnext, hreports⟩ := concluded.step hstep
    exact (ih hnext hrest).trans hreports

/-! ### What is reported when somebody is told -/

theorem exists_concluded (sent : s.sent?.isSome ∨ s.isGone = true) :
    ∃ session, s.thread = .closing session ∨ s.thread = .gone session := by
  cases hthread : s.thread with
  | closing session => exact ⟨session, .inl rfl⟩
  | gone session => exact ⟨session, .inr rfl⟩
  | _ => simp [sent?, isGone, hthread] at sent

theorem tells_of_answer {r : Reply n} {exit : ServerExit} (answer : r.answer = .exit (some exit))
    {known : Option ServerExit} (tells : r.Tells known) : known = some exit := by
  have h : r.question.answer known = .exit (some exit) := tells.symm.trans answer
  cases hq : r.question <;> simp_all [Question.answer]

/-- When an observer on its own is told of an exit, the session is concluded, the exit is that of
the session, and its diagnostic is reported. -/
theorem session_of_told {directory : Option String} {sink : Sink} (listens : sink ≠ .refusing)
    {events : List (ServerEvent 1)} {s : ServerScene 1}
    (moved : (start program directory sink 1).run? events = some s) {r : Reply 1}
    (told : r ∈ s.told)
    {exit : ServerExit} (answer : r.answer = .exit (some exit)) :
    ∃ session, session.Came program events ∧ s.Concluded session ∧
      exit = session.exit program ∧ s.reports = (session.diagnostic? program).toList := by
  obtain ⟨hprogram, hsink⟩ : s.supervisor.program = program ∧ s.supervisor.sink = sink :=
    supervisor_run moved
  obtain ⟨h, sound⟩ : ∃ h, s.Sound False h :=
    sound_run (sound_start program directory sink) (.inr (orderly_of_run moved)) moved
  have hcell : h.cell = some exit := by
    rcases sound.told r told with none_ | ⟨exit', cell, tells⟩
    · exact absurd (tells_of_answer answer none_) (by simp)
    · rw [cell, tells_of_answer answer tells]
  have stands := sound.stands.of_cell hcell
  obtain ⟨session, thread⟩ : ∃ session, s.thread = .closing session ∨ s.thread = .gone session :=
    exists_concluded <| stands.imp (fun ⟨sent, hsent, _⟩ => by simp [hsent]) fun lost => lost.2.1
  -- A sink that takes the diagnostic does not abort the thread, and so the exit is sent.
  have sent : s.sent? = some (session.exit program) := by
    rw [sent?_of_reported thread, result,
      SessionEnd.reported_of_ne_refusing (by rwa [hsink]), hprogram]
    rfl
  have hexit : exit = session.exit program := by
    rcases stands with ⟨exit', hsome, rfl | ⟨-, torn⟩⟩ | ⟨none_, -, -⟩
    · exact Option.some.inj (hsome.symm.trans sent)
    · exact torn.elim
    · simp [sent] at none_
  have concluded : s.Concluded session := .inr thread
  have booked : s.Booked program events :=
    booked_run (booked_start directory sink) rfl listens (List.Subset.refl events) moved
  cases booked with
  | underway stands => rcases thread with thread | thread <;> simp [thread] at stands
  | due session' thread' => rcases thread with thread | thread <;> simp [thread] at thread'
  | closed session' concluded' came reports =>
    obtain rfl : session = session' := by
      rcases thread with thread | thread <;> simpa [Concluded, thread] using concluded'
    exact ⟨session, came, concluded, hexit, reports⟩

end ServerScene

end InspectionHost
