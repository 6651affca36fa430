import InspectionHost.Machine.Launch
import InspectionHost.Outcome
import InspectionHost.ServerExit
import InspectionHost.Settings
import InspectionHost.Sink

/-!
# Client calls

A call launches the client and then looks at it from time to time: first until the client has
ended, then until all of its output is read. A look finds first what it waits for, so a client
that is done is never given up. If it is not there, the look goes on to the token of the caller
and to the clock, and the call is given up when it is cancelled or when its time is over. A
client whose end is still awaited is killed then, and its end is awaited all the same.

## Main definitions

* `Limits` : the time of a call and whether it can be cancelled.
* `Glance` : what can be seen of a call.
* `LaunchResult` : how a call begins.
* `LookStage` : how far a look has come.
* `CallPhase`, `CallPhase.step` : the phases of a call, and the single steps through them.
* `CallPhase.look` : a whole look at one moment.
* `CallEnding` : how a call ends, with its outcome and its diagnostics.

## Main results

* `Limits.tick_le_pollInterval`, `Limits.tick_pos` : how long a wait between two looks is.
* `Limits.starting_eq_ok_iff`, `Limits.starting_eq_error_iff` : when limits can be made.
* `CallPhase.awaitExit_cases`, `CallPhase.awaitLines_cases` : what a step can do.
* `CallPhase.look_waiting`, `CallPhase.look_collecting` : a whole look checks the limits once.
-/

namespace InspectionHost

/-- The limits of a call. -/
structure Limits where
  /-- How long the call may take, and the reading of the clock at which that time is over. -/
  timeout : Option (Duration × Nat)
  /-- Whether the caller can cancel the call. -/
  cancellable : Bool
  deriving DecidableEq, Repr

namespace Limits

/-- The time from one look to the next, unless less is left: 25 milliseconds. -/
def pollInterval : Nat := 25000000

/-- The limits of a call that starts at a reading of the clock. Whoever makes them is aborted if
the clock cannot show when the time is over. -/
def starting (timeout : Option Duration) (cancellable : Bool) (now : Nat) : Except Abort Limits :=
  match timeout with
  | none => .ok ⟨none, cancellable⟩
  | some limit =>
    match Clock.add? now limit with
    | some deadline => .ok ⟨some (limit, deadline), cancellable⟩
    | none => .error .clockOverflow

/-- Whether the call may take any time and cannot be cancelled. -/
def isUnbounded (l : Limits) : Bool :=
  l.timeout.isNone && !l.cancellable

/-- Why the call has to be given up after a look at the token, if it has to. -/
def checkToken (l : Limits) (cancelled : Bool) : Option Failure :=
  if l.cancellable && cancelled then some .cancelled else none

/-- Why the call has to be given up after a look at the clock, if it has to. -/
def checkClock (l : Limits) (now : Nat) : Option Failure :=
  match l.timeout with
  | some (limit, deadline) => if deadline ≤ now then some (.timedOut limit) else none
  | none => none

/-- Why the call has to be given up, if it has to: because it is cancelled, or else because its
time is over. -/
def check (l : Limits) (cancelled : Bool) (now : Nat) : Option Failure :=
  (l.checkToken cancelled).or (l.checkClock now)

/-- How long to wait before the next look. -/
def tick (l : Limits) (now : Nat) : Nat :=
  match l.timeout with
  | some (_, deadline) => min (deadline - now) pollInterval
  | none => pollInterval

/-- The time is over at a reading of the clock, if there is a time. -/
theorem starting_eq_ok_iff {timeout : Option Duration} {cancellable : Bool} {now : Nat}
    {l : Limits} : starting timeout cancellable now = .ok l ↔
      l = ⟨timeout.map fun limit => (limit, now + limit.nanos), cancellable⟩ ∧
        ∀ limit, timeout = some limit → now + limit.nanos < Clock.limit := by
  cases timeout with
  | none => simp [starting, eq_comm]
  | some limit =>
    cases added : Clock.add? now limit with
    | none => simp [starting, added, Clock.add?_eq_none_iff.1 added]
    | some deadline =>
      obtain ⟨rfl, inside⟩ := Clock.add?_eq_some_iff.1 added
      simp [starting, added, inside, eq_comm]

/-- Limits fail to be made in one way. -/
theorem starting_eq_error_iff {timeout : Option Duration} {cancellable : Bool} {now : Nat}
    {abort : Abort} : starting timeout cancellable now = .error abort ↔
      abort = .clockOverflow ∧
        ∃ limit, timeout = some limit ∧ Clock.limit ≤ now + limit.nanos := by
  cases timeout with
  | none => simp [starting]
  | some limit =>
    cases added : Clock.add? now limit with
    | none => simp [starting, added, Clock.add?_eq_none_iff.1 added, eq_comm]
    | some deadline =>
      obtain ⟨rfl, inside⟩ := Clock.add?_eq_some_iff.1 added
      simp [starting, added, inside]

/-- No wait is longer than the poll interval. -/
theorem tick_le_pollInterval (l : Limits) (now : Nat) : l.tick now ≤ pollInterval := by
  unfold tick
  split
  · exact Nat.min_le_right ..
  · exact Nat.le_refl _

/-- Before the time is over, every wait lasts. -/
theorem tick_pos {l : Limits} {now : Nat} (h : ∀ t ∈ l.timeout, now < t.2) : 0 < l.tick now := by
  unfold tick
  split
  · next limit deadline timed =>
    have : now < deadline := h (limit, deadline) (by simp [timed])
    exact Nat.lt_min.2 ⟨by omega, by decide⟩
  · decide

end Limits

/-- What the system tells of the end of a client. -/
inductive ExitReading where
  /-- The client runs. -/
  | pending
  /-- The client has ended. -/
  | ended (status : ExitStatus)
  /-- The system cannot tell. -/
  | failed (error : IoError)
  deriving DecidableEq, Repr

/-- What is known of the output of a client. -/
inductive Capture where
  /-- It may still grow. -/
  | pending
  /-- All of it is read, in lines. -/
  | lines (lines : List String)
  /-- It could not be read. -/
  | failed (error : IoError)
  /-- Its reader ended without telling. -/
  | lost
  deriving DecidableEq, Repr

/-- What can be seen of a call. Each step of a look uses one part of it. -/
structure Glance where
  exit : ExitReading
  capture : Capture
  /-- Whether the caller has cancelled the call. -/
  cancelled : Bool
  /-- The reading of the clock. -/
  now : Nat
  deriving DecidableEq, Repr

/-- How a call ends. -/
inductive CallEnding where
  /-- The client has ended and its output is read. -/
  | completed (status : ExitStatus) (lines : List String)
  /-- There is no output, for the given reason. -/
  | failed (failure : Failure)
  deriving DecidableEq, Repr

/-- How the launch of a client goes. -/
inductive LaunchResult where
  /-- There is no program of the configured name. -/
  | notFound
  /-- The program could not be started. -/
  | refused (error : IoError)
  /-- The client runs, and its output does not come to the launcher. -/
  | uncaptured
  /-- The client runs, and nothing could be made to read its output. -/
  | unreadable (error : IoError)
  /-- The client runs, and its output is read as it comes. -/
  | started
  deriving DecidableEq, Repr

/-- How a launch goes whose client runs, with its output where it was asked to go, and where a
reader of the output could be made or not. -/
def LaunchResult.ofOutput : Stream → Except IoError Unit → LaunchResult
  | .piped, .ok () => started
  | .piped, .error error => unreadable error
  | _, _ => uncaptured

/-- How far a look has come. -/
inductive LookStage where
  /-- What is waited for is looked at next. -/
  | event
  /-- It was not there, and the token is looked at next. -/
  | token
  /-- The call is not cancelled, and the clock is looked at next. -/
  | clock
  deriving DecidableEq, Repr

namespace LookStage

/-- The stage behind one at which nothing was found, or why the call is given up there. Without
limits nothing but the event is looked at. -/
def next (l : Limits) (g : Glance) : LookStage → Except Failure LookStage
  | event => .ok (if l.isUnbounded then event else token)
  | token =>
    match l.checkToken g.cancelled with
    | some failure => .error failure
    | none => .ok clock
  | clock =>
    match l.checkClock g.now with
    | some failure => .error failure
    | none => .ok event

end LookStage

/-- A phase of a call. -/
inductive CallPhase where
  /-- The client has not been launched. -/
  | launching
  /-- The end of the client is awaited. -/
  | waiting (stage : LookStage)
  /-- The call is given up, and the client has to be killed. -/
  | killing (failure : Failure)
  /-- The call is given up, and the end of the killed client is awaited. -/
  | reaping (failure : Failure)
  /-- The client has ended; its output is awaited. -/
  | collecting (status : ExitStatus) (stage : LookStage)
  /-- The call is over. -/
  | finished (ending : CallEnding)
  /-- The call is aborted, and its client is left to itself. -/
  | aborted (abort : Abort)
  deriving DecidableEq, Repr

namespace CallPhase

/-- The phase behind a launch. A client that runs unread is killed. The limits are made for a
client whose output is read, and an abort leaves it running. -/
def ofLaunch (program : String) (limits : Except Abort Limits) : LaunchResult → CallPhase
  | .notFound => finished (.failed (.notFound program))
  | .refused error => finished (.failed (.launch program error))
  | .uncaptured => finished (.failed (.io "Failed to capture stdout"))
  | .unreadable error => killing (.io error.message)
  | .started =>
    match limits with
    | .ok _ => waiting .event
    | .error abort => aborted abort

/-- A step while the end of the client is awaited. -/
def awaitExit (l : Limits) (stage : LookStage) (g : Glance) : CallPhase :=
  match stage, g.exit with
  | .event, .ended status => collecting status .event
  | .event, .failed error => finished (.failed (.io error.message))
  | _, _ =>
    match stage.next l g with
    | .ok stage => waiting stage
    | .error failure => killing failure

/-- A step while the output is awaited. -/
def awaitLines (l : Limits) (status : ExitStatus) (stage : LookStage) (g : Glance) : CallPhase :=
  match stage, g.capture with
  | .event, .lines lines => finished (.completed status lines)
  | .event, .failed error => finished (.failed (.io error.message))
  | .event, .lost => finished (.failed (.io "stdout reader ended without reporting"))
  | _, _ =>
    match stage.next l g with
    | .ok stage => collecting status stage
    | .error failure => finished (.failed failure)

/-- A step while the end of a killed client is awaited. What the system tells does not matter. -/
def awaitKilled (failure : Failure) (g : Glance) : CallPhase :=
  match g.exit with
  | .pending => reaping failure
  | _ => finished (.failed failure)

/-- What a step does to a phase. A launch is no step. -/
def step (l : Limits) : CallPhase → Glance → CallPhase
  | launching, _ => launching
  | waiting stage, g => awaitExit l stage g
  | killing failure, _ => reaping failure
  | reaping failure, g => awaitKilled failure g
  | collecting status stage, g => awaitLines l status stage g
  | finished ending, _ => finished ending
  | aborted abort, _ => aborted abort

/-- Whether a look is under way. -/
def isLooking : CallPhase → Bool
  | waiting .token | waiting .clock | collecting _ .token | collecting _ .clock => true
  | _ => false

/-- The rest of a look that is under way, for at most so many steps. -/
def lookOn (l : Limits) (g : Glance) : Nat → CallPhase → CallPhase
  | 0, p => p
  | steps + 1, p => if p.isLooking then lookOn l g steps (p.step l g) else p

/-- A whole look at one moment. -/
def look (l : Limits) (p : CallPhase) (g : Glance) : CallPhase :=
  lookOn l g 2 (p.step l g)

/-- While the end of the client is awaited, a step finds the end, or fails to learn of it, or goes
on to the next stage, or gives the call up. -/
theorem awaitExit_cases (l : Limits) (stage : LookStage) (g : Glance) :
    (∃ status, stage = .event ∧ g.exit = .ended status ∧
        awaitExit l stage g = collecting status .event) ∨
      (∃ error, stage = .event ∧ g.exit = .failed error ∧
        awaitExit l stage g = finished (.failed (.io error.message))) ∨
      ((stage = .event → g.exit = .pending) ∧
        ((∃ next, stage.next l g = .ok next ∧ awaitExit l stage g = waiting next) ∨
          ∃ failure, stage.next l g = .error failure ∧ awaitExit l stage g = killing failure)) := by
  unfold awaitExit
  split
  · next status exit => exact .inl ⟨status, rfl, exit, rfl⟩
  · next error exit => exact .inr (.inl ⟨error, rfl, exit, rfl⟩)
  · next notEnded notFailed =>
    refine .inr (.inr ⟨fun event => ?_, ?_⟩)
    · cases exit : g.exit with
      | pending => rfl
      | ended status => exact (notEnded status event exit).elim
      | failed error => exact (notFailed error event exit).elim
    · split
      · next behind goesOn => exact .inl ⟨behind, goesOn, rfl⟩
      · next failure reached => exact .inr ⟨failure, reached, rfl⟩

/-- While the output is awaited, a step finds it, or finds that it does not come, or goes on to
the next stage, or gives the call up. -/
theorem awaitLines_cases (l : Limits) (status : ExitStatus) (stage : LookStage) (g : Glance) :
    (∃ lines, stage = .event ∧ g.capture = .lines lines ∧
        awaitLines l status stage g = finished (.completed status lines)) ∨
      (∃ failure, stage = .event ∧ ((∃ error, g.capture = .failed error) ∨ g.capture = .lost) ∧
        failure.kind = .io ∧ awaitLines l status stage g = finished (.failed failure)) ∨
      ((stage = .event → g.capture = .pending) ∧
        ((∃ next, stage.next l g = .ok next ∧
            awaitLines l status stage g = collecting status next) ∨
          ∃ failure, stage.next l g = .error failure ∧
            awaitLines l status stage g = finished (.failed failure))) := by
  unfold awaitLines
  split
  · next lines capture => exact .inl ⟨lines, rfl, capture, rfl⟩
  · next error capture => exact .inr (.inl ⟨_, rfl, .inl ⟨error, capture⟩, rfl, rfl⟩)
  · next capture => exact .inr (.inl ⟨_, rfl, .inr capture, rfl, rfl⟩)
  · next notLines notFailed notLost =>
    refine .inr (.inr ⟨fun event => ?_, ?_⟩)
    · cases capture : g.capture with
      | pending => rfl
      | lines lines => exact (notLines lines event capture).elim
      | failed error => exact (notFailed error event capture).elim
      | lost => exact (notLost event capture).elim
    · split
      · next behind goesOn => exact .inl ⟨behind, goesOn, rfl⟩
      · next failure reached => exact .inr ⟨failure, reached, rfl⟩

/-- A phase behind the launch is behind the launch after a step as well. -/
theorem step_ne_launching {p : CallPhase} (launched : p ≠ launching) (l : Limits) (g : Glance) :
    p.step l g ≠ launching := by
  cases p with
  | launching => exact (launched rfl).elim
  | waiting stage =>
    rcases awaitExit_cases l stage g with ⟨_, -, -, h⟩ | ⟨_, -, -, h⟩ |
      ⟨-, ⟨_, -, h⟩ | ⟨_, -, h⟩⟩ <;> simp [step, h]
  | killing f => simp [step]
  | reaping f =>
    simp only [step, awaitKilled]
    split <;> simp
  | collecting status stage =>
    rcases awaitLines_cases l status stage g with ⟨_, -, -, h⟩ | ⟨_, -, -, -, h⟩ |
      ⟨-, ⟨_, -, h⟩ | ⟨_, -, h⟩⟩ <;> simp [step, h]
  | finished ending => simp [step]
  | aborted abort => simp [step]

theorem ofLaunch_ne_launching (program : String) (limits : Except Abort Limits)
    (launch : LaunchResult) : ofLaunch program limits launch ≠ launching := by
  cases launch <;> cases limits <;> simp [ofLaunch]

/-- A whole look at a client that runs is one check of the limits. -/
theorem look_waiting {l : Limits} {g : Glance} (bounded : l.isUnbounded = false)
    (pending : g.exit = .pending) :
    look l (waiting .event) g =
      (l.check g.cancelled g.now).elim (waiting .event) killing := by
  cases token : l.checkToken g.cancelled <;> cases clock : l.checkClock g.now <;>
    simp [look, lookOn, step, awaitExit, LookStage.next, isLooking, Limits.check, *]

/-- A whole look at an output that may still grow is one check of the limits. -/
theorem look_collecting {l : Limits} {g : Glance} (status : ExitStatus)
    (bounded : l.isUnbounded = false) (pending : g.capture = .pending) :
    look l (collecting status .event) g =
      (l.check g.cancelled g.now).elim (collecting status .event) fun failure =>
        finished (.failed failure) := by
  cases token : l.checkToken g.cancelled <;> cases clock : l.checkClock g.now <;>
    simp [look, lookOn, step, awaitLines, LookStage.next, isLooking, Limits.check, *]

theorem look_waiting_of_ended (l : Limits) {g : Glance} {status : ExitStatus}
    (ended : g.exit = .ended status) :
    look l (waiting .event) g = collecting status .event := by
  simp [look, lookOn, step, awaitExit, isLooking, ended]

theorem look_collecting_of_lines (l : Limits) (status : ExitStatus) {g : Glance}
    {lines : List String} (read : g.capture = .lines lines) :
    look l (collecting status .event) g = finished (.completed status lines) := by
  simp [look, lookOn, step, awaitLines, isLooking, read]

end CallPhase

namespace CallEnding

/-- The diagnostic of a client that ended other than by success. -/
def exitDiagnostic (program : String) (command : Command) (status : ExitStatus) : Diagnostic :=
  ⟨.clientExitCode, "'" ++ program ++ " " ++ command.subcommand ++ "' " ++ status.describe⟩

/-- The outcome of a call. -/
def outcome : CallEnding → Outcome
  | completed _ lines => .ofLines lines
  | failed failure => .failure failure

/-- The diagnostic of a call, if it has one. A client that ended by success has none. -/
def diagnostic? (program : String) (command : Command) : CallEnding → Option Diagnostic
  | completed status _ =>
    if status.isSuccess then none else some (exitDiagnostic program command status)
  | failed failure => some failure.diagnostic

/-- The end of a call: its diagnostic is reported, and its outcome handed on. -/
def conclude (ending : CallEnding) (sink : Sink) (program : String) (command : Command) :
    Reported Outcome := do
  sink.reportAll (ending.diagnostic? program command)
  return ending.outcome

end CallEnding

/-- The failure of a call whose task was aborted on another thread. -/
def Failure.ofAbort (task : Nat) (abort : Abort) : Failure :=
  .io ("client task failed: task " ++ Text.Decimal.print task ++ " panicked with message "
    ++ Text.Quoted.quote abort.message)

/-- A call whose task runs on another thread: an abort of the task becomes a failure, which is
reported in its turn. A task that does not end is waited for all the same. -/
def Reported.shielded (call : Reported Outcome) (sink : Sink) (task : Nat) : Reported Outcome :=
  match call.result with
  | .ok _ | .error .unending => call
  | .error abort =>
    let failure := Failure.ofAbort task abort
    let again := sink.report failure.diagnostic
    ⟨call.diagnostics ++ again.diagnostics, again.result.map fun _ => .failure failure⟩

end InspectionHost
