import InspectionHost.Client.ActiveCall
import InspectionHost.Client.LineReader
import InspectionHost.DiagnosticChannel
import InspectionHost.Machine.Process
import InspectionHost.Server.Handle

/-!
# The host

The host runs on a machine. It has client calls under way, each with a phase of its own, and at
most one supervised server for each supervisor. Calls and supervisors look at the machine in
every tick and report what they find; nothing else connects them.

## Main definitions

* `Supervisor` : the supervisor of an engine server, with its thread and its handle.
* `Host` : the machine with all that goes on.
* `Host.tick` : one tick of the clock.
* `Host.waitUntil` : let time pass up to a condition.
-/

namespace InspectionHost

/-- What the thread of a supervisor does. -/
inductive Supervision where
  /-- The server is about to be launched. -/
  | launching
  /-- The server runs. -/
  | watching (process : Nat)
  /-- The thread has ended. -/
  | finished
  deriving DecidableEq, Repr

/-- The supervisor of an engine server. -/
structure Supervisor where
  program : String
  workingDirectory : Option String
  sink : Sink
  /-- The handle, once the server is started. -/
  handle : Option ServerHandle
  supervision : Supervision
  deriving DecidableEq, Repr

/-- An event that the log records. -/
inductive LogEvent where
  | diagnostic (d : Diagnostic)
  /-- The thread that launches the server has been started. -/
  | supervisorStarted (program : String)
  | serverStarted (program : String) (process : Nat)
  /-- The server has ended by success. -/
  | serverEnded (program : String)
  deriving DecidableEq, Repr

/-- The machine with all that goes on. -/
structure Host where
  machine : Machine
  environment : Environment
  /-- The working directory of the host. -/
  directory : Place
  /-- Which of the tokens are cancelled. -/
  tokens : List Bool
  /-- The tokens that are cancelled at a given time. -/
  alarms : List (Nat × Nat)
  calls : List ActiveCall
  supervisor : Supervisor
  /-- The diagnostics of clients that nobody has received. -/
  clientChannel : DiagnosticChannel
  /-- The diagnostics of the server that nobody has received. -/
  serverChannel : DiagnosticChannel
  /-- What the log records and when, the last first. -/
  log : List (Nat × LogEvent)
  /-- How many ticks anything is waited for that has no time of its own. -/
  patience : Nat

namespace Supervisor

/-- A supervisor that has not started its server. -/
def new (program : String) (workingDirectory : Option String) (sink : Sink) : Supervisor :=
  ⟨program, workingDirectory, sink, none, .finished⟩

/-- Start the server, once. -/
def start (s : Supervisor) : Except HostError Supervisor :=
  if s.handle.isSome then .error .serverAlreadyStarted
  else .ok { s with handle := some .new, supervision := .launching }

/-- What is launched as the server, where the program is found at `path`. -/
def launch (s : Supervisor) (path : String) : Launch where
  program := path
  arguments := []
  directory := s.workingDirectory
  additions := []
  output := .discarded
  errors := .inherited

/-- The structure dump of a supervisor. -/
def dump (s : Supervisor) : String :=
  "ServerSupervisor \x7b program: " ++ Text.Quoted.quote s.program ++
    ", working_directory: " ++ Client.dumpOption (s.workingDirectory.map Text.Quoted.quote) ++
    ", handle: " ++ Client.dumpOption (s.handle.map ServerHandle.dump) ++ ", .. \x7d"

/-- The diagnostic of a session that has ended, if it has one. -/
def exitDiagnostic? (program : String) (status : ExitStatus) : Option Diagnostic :=
  if status.isSuccess then none
  else some ⟨.serverExited, "'" ++ program ++ "' " ++ status.describe⟩

/-- The end of a session whose server has ended. -/
def concludeExit (s : Supervisor) (status : ExitStatus) : Reported ServerExit := do
  s.sink.reportAll (exitDiagnostic? s.program status)
  return .exited (status.code?.map Int.ofNat)

/-- The end of a session whose server was never started. -/
def concludeFailure (s : Supervisor) (failure : Failure) : Reported ServerExit := do
  s.sink.report ⟨.serverLaunchFailed, failure.reason⟩
  return .launchFailed failure.reason

/-- The end of a session whose server ran, where the system could not tell how it ended. -/
def concludeUnseen (s : Supervisor) (error : IoError) : Reported ServerExit := do
  let reason := "Failed to wait for '" ++ s.program ++ "': " ++ error.message
  s.sink.report ⟨.serverExited, reason⟩
  return .waitFailed reason

/-- The supervisor when its thread ends: the end of the session is sent, unless the thread was
aborted, and the thread goes away. -/
def settle (s : Supervisor) (result : Except Abort ServerExit) : Supervisor :=
  let deliver (h : ServerHandle) : ServerHandle :=
    match result with
    | .ok exit => { h with mailbox := (h.mailbox.send exit).close }
    | .error _ => { h with mailbox := h.mailbox.close }
  { s with supervision := .finished, handle := s.handle.map deliver }

end Supervisor

namespace Host

/-- The ticks of ten minutes. -/
def usualPatience : Nat := 600000

/-- A host on a machine, with a supervisor. -/
def new (machine : Machine) (environment : Environment) (directory : Place)
    (supervisor : Supervisor) : Host where
  machine := machine
  environment := environment
  directory := directory
  tokens := [false]
  alarms := []
  calls := []
  supervisor := supervisor
  clientChannel := .new
  serverChannel := .new
  log := []
  patience := usualPatience

/-- Hand the diagnostics of a client call to its sink. -/
def deliverClient (h : Host) (sink : Sink) (ds : List Diagnostic) : Host :=
  match sink with
  | .channel =>
    { h with clientChannel := ds.foldl (fun ch d => ch.report d .direct) h.clientChannel }
  | .log => { h with log := ds.foldl (fun log d => (h.machine.now, .diagnostic d) :: log) h.log }
  | .refusing => h

/-- Hand the diagnostics of the supervisor to its sink. -/
def deliverServer (h : Host) (sink : Sink) (ds : List Diagnostic) : Host :=
  match sink with
  | .channel =>
    { h with serverChannel := ds.foldl (fun ch d => ch.report d .direct) h.serverChannel }
  | .log => { h with log := ds.foldl (fun log d => (h.machine.now, .diagnostic d) :: log) h.log }
  | .refusing => h

/-- Record something in the log. -/
def record (h : Host) (event : LogEvent) : Host :=
  { h with log := (h.machine.now, event) :: h.log }

/-- Whether a token is cancelled. -/
def isCancelled (h : Host) (token : Nat) : Bool :=
  h.tokens[token]?.getD false

/-- Cancel a token. -/
def cancel (h : Host) (token : Nat) : Host :=
  { h with tokens := h.tokens.set token true }

/-! ### Client calls -/

/-- What can be seen of a call. -/
def glance (h : Host) (c : ActiveCall) : Glance where
  exit := match c.process.bind h.machine.status? with
    | some status => .ended status
    | none => .pending
  capture := match c.process.bind h.machine.output? with
    | some pieces => .lines (readLines pieces)
    | none => .pending
  cancelled := c.token.any h.isCancelled
  now := h.machine.now

/-- Kill the client of a call that is given up, and see its end. -/
def stopClient (h : Host) (c : ActiveCall) : Host × ActiveCall :=
  match c.phase with
  | .killing _ =>
    let h := { h with machine := (c.process.map h.machine.kill).getD h.machine }
    (h, (c.advance (h.glance c)).advance (h.glance c))
  | _ => (h, c)

/-- End a call that is over: kill its client if need be, and report. -/
def concludeCall (h : Host) (c : ActiveCall) : Host × ActiveCall :=
  let (h, c) := h.stopClient c
  let (diagnostics, c) := c.conclude
  (h.deliverClient c.sink diagnostics, c)

/-- Look at the output of a client that has ended. The limits count only when it is time. -/
def lookAtOutput (h : Host) (c : ActiveCall) : ActiveCall :=
  let g := h.glance c
  if g.capture == .pending && (c.limits.isUnbounded || h.machine.now < c.nextLook) then c
  else c.look g

/-- Look at a call in its phase. A client whose end is awaited with limits is looked at when it
is time, and without limits as soon as it ends. -/
def look (h : Host) (c : ActiveCall) : ActiveCall :=
  match c.phase with
  | .waiting _ =>
    if h.machine.now < c.nextLook then c
    else
      let g := h.glance c
      if g.exit == .pending && c.limits.isUnbounded then c
      else
        let c := c.look g
        match c.phase with
        | .collecting _ _ => h.lookAtOutput c
        | _ => c
  | .collecting _ _ => h.lookAtOutput c
  | _ => c

/-- How the launch of a client goes, and the host with its process. -/
def launchClient (h : Host) (client : Client) (command : Command) :
    LaunchResult × Option Nat × Host :=
  match lookUpProgram h.machine.files h.directory h.environment client.options.program with
  | none => (.notFound, none, h)
  | some path =>
    let launch := client.launch path command
    match launch.start h.machine.files h.directory h.environment with
    | .error error => (.refused error, none, h)
    | .ok image =>
      let (process, machine) := h.machine.spawn image (launch.errors == .inherited)
      (.ofOutput launch.output (.ok ()), some process, { h with machine })

/-- Begin a call. The first look is at once. -/
def beginCall (h : Host) (c : ActiveCall) : Host × ActiveCall :=
  let (launch, process, h) := h.launchClient c.client c.command
  h.concludeCall (h.look (c.launched launch process h.machine.now))

/-- Begin a call that has not begun; look at any other, and end it if it is over. -/
def advanceCall (h : Host) (c : ActiveCall) : Host × ActiveCall :=
  match c.phase with
  | .launching => h.beginCall c
  | _ => h.concludeCall (h.look c)

/-- Look at several calls in their order. -/
def advanceCalls (h : Host) : List ActiveCall → Host × List ActiveCall
  | [] => (h, [])
  | c :: rest =>
    let (h, c) := h.advanceCall c
    let (h, rest) := advanceCalls h rest
    (h, c :: rest)

/-- Add a call. Its number is the number of calls before it. -/
def addCall (h : Host) (c : ActiveCall) : Nat × Host :=
  (h.calls.length, { h with calls := h.calls ++ [c] })

/-- How a call ended, once it is over. -/
def callResult? (h : Host) (call : Nat) : Option (Except Abort Outcome) :=
  h.calls[call]?.bind ActiveCall.result

/-! ### The supervisor -/

/-- How the launch of the server goes: its process, or the end of the session. -/
def launchServer (h : Host) (s : Supervisor) : Except Failure (Nat × Machine) :=
  match lookUpProgram h.machine.files h.directory h.environment s.program with
  | none => .error (.notFound s.program)
  | some path =>
    let launch := s.launch path
    match launch.start h.machine.files h.directory h.environment with
    | .error error => .error (.launch s.program error)
    | .ok image => .ok (h.machine.spawn image (launch.errors == .inherited))

/-- End the thread of the supervisor, with what it reports. -/
def endSupervision (h : Host) (reported : Reported ServerExit) : Host :=
  let h := h.deliverServer h.supervisor.sink reported.diagnostics
  { h with supervisor := h.supervisor.settle reported.result }

/-- What the thread of the supervisor does in a tick. -/
def supervise (h : Host) : Host :=
  match h.supervisor.supervision with
  | .launching =>
    match h.launchServer h.supervisor with
    | .error failure => h.endSupervision (h.supervisor.concludeFailure failure)
    | .ok (process, machine) =>
      let h := { h with machine }
      { h.record (.serverStarted h.supervisor.program process) with
        supervisor := { h.supervisor with supervision := .watching process } }
  | .watching process =>
    match h.machine.status? process with
    | none => h
    | some status =>
      let h := if status.isSuccess then h.record (.serverEnded h.supervisor.program) else h
      h.endSupervision (h.supervisor.concludeExit status)
  | .finished => h

/-! ### Time -/

/-- Cancel the tokens whose time has come. -/
def ringAlarms (h : Host) : Host :=
  let (due, later) := h.alarms.partition fun alarm => alarm.1 ≤ h.machine.now
  { due.foldl (fun h alarm => h.cancel alarm.2) h with alarms := later }

/-- One tick of the clock. -/
def tick (h : Host) : Host :=
  let h := { h with machine := h.machine.tick }
  let h := h.ringAlarms
  let (h, calls) := h.advanceCalls h.calls
  { h with calls }.supervise

/-- Let time pass until a condition holds, for at most `ticks` ticks. -/
def waitUntil (done : Host → Bool) : Nat → Host → Host
  | 0, h => h
  | ticks + 1, h => if done h then h else waitUntil done ticks h.tick

/-- Let time pass. -/
def pass (ticks : Nat) (h : Host) : Host :=
  h.waitUntil (fun _ => false) ticks

end Host

end InspectionHost
