import InspectionHost.Host.Front
import InspectionHost.Log.ErrorOutput
import InspectionHost.Log.Filter
import InspectionHost.Settings.Load

/-!
# The program

The program reads its command line, settles its settings, and carries out the action. It writes
outcomes to its output, and log records and a closing error to its error output, where the
server writes as well. Its exit code tells how the action ended.

## Main definitions

* `LogEvent.record` : the log record of an event.
* `RunReport` : what a run of the program leaves.
* `Host.runProgram` : a run of the program.
-/

namespace InspectionHost

open InspectionHost.CommandLine InspectionHost.Log

namespace LogEvent

/-- The part of the program that reports diagnostics. -/
def diagnosticTarget : String := "rwp_host::notifications"

/-- The part of the program that supervises the server. -/
def supervisorTarget : String := "rwp_host::host::supervisor"

/-- The log record of an event. -/
def record : LogEvent → LogRecord
  | diagnostic d =>
    ⟨match d.kind with
      | .serverLaunchFailed | .clientLaunchFailed => .error
      | _ => .warn, diagnosticTarget, d.text, [⟨"kind", d.kind.name, false⟩]⟩
  | supervisorStarted program =>
    ⟨.debug, supervisorTarget, "Server supervisor started", [⟨"program", program, false⟩]⟩
  | serverStarted program process =>
    ⟨.info, supervisorTarget, "Engine server started",
      [⟨"pid", Text.Decimal.print process, false⟩, ⟨"program", program, true⟩]⟩
  | serverEnded program =>
    ⟨.info, supervisorTarget, "Engine server exited", [⟨"program", program, true⟩]⟩

end LogEvent

/-- What a run of the program leaves. -/
structure RunReport where
  exitCode : Nat
  output : String
  /-- The lines of the error output. -/
  errors : List ErrorLine
  /-- The machine when everything has ended. -/
  machine : Machine

/-- The text that tells the version. -/
def versionLine : String := "rwp 0.1.0\n"

/-- The exit code when settings cannot be settled. -/
def configurationExitCode : Nat := 3

/-- The exit code when the program cannot go on at all. -/
def faultExitCode : Nat := 101

namespace Host

/-- The pieces that the server has written to the error output, with the time of each. -/
def serverPieces (m : Machine) : List (Nat × ErrorPiece) :=
  (m.processes.filter Process.sharesErrors).flatMap fun p =>
    p.errors.reverse.map fun (time, bytes) => (time, .bytes bytes)

/-- The lines of the error output of a run: what the server writes, the records that the filter
keeps, and the closing error, in the order of time. -/
def errorLines (filter : LogFilter) (format : LogFormat) (log : List (Nat × LogEvent))
    (m : Machine) (closing : List (Nat × String)) : List ErrorLine :=
  let kept := (log.reverse.map fun (time, event) => (time, event.record)).filter fun entry =>
    filter.keeps entry.2
  let pieces := serverPieces m ++
    kept.map (fun (time, record) => (time, ErrorPiece.ofRecord format record)) ++
    closing.map fun (time, line) => (time, ErrorPiece.ofText (line ++ "\n"))
  ErrorOutput.ofPieces ((pieces.mergeSort fun a b => a.1 ≤ b.1).map Prod.snd)

/-- Let what runs on the machine come to its end. -/
def drainMachine (h : Host) : Machine :=
  (h.waitUntil (fun h => h.machine.processes.all fun p => p.status?.isSome) h.patience).machine

/-- A run that ends before its action, with a text for the error output. -/
def endEarly (h : Host) (exitCode : Nat) (output errors : String) : RunReport :=
  ⟨exitCode, output, ErrorOutput.ofPieces [.ofText errors], h.machine⟩

/-- How an action ends the program: the exit code and the closing error. A failed call and a
stopped server have been reported already. -/
def closing (error : Option RunError) : Nat × Option String :=
  match error with
  | none => (0, none)
  | some e => (e.exitCode, if e.exitCode = 1 then none else some ("Error: " ++ e.report))

/-- How a run writes log records. Text has styles unless the environment asks for none. -/
def logFormat (h : Host) (json : Bool) : LogFormat :=
  if json then .json else .text ((h.environment.get? "NO_COLOR").all String.isEmpty)

/-- What a run leaves when its action is over, with a last line for the error output if there is
one. -/
def leave (h : Host) (filter : LogFilter) (json : Bool) (exitCode : Nat) (output : String)
    (line : Option String) : RunReport :=
  let machine := h.drainMachine
  ⟨exitCode, output, errorLines filter (h.logFormat json) h.log machine
    (line.toList.map fun line => (h.machine.now, line)), machine⟩

/-- What a run leaves whose action has come to its end. -/
def report (h : Host) (filter : LogFilter) (json : Bool) (exchange : Exchange) : RunReport :=
  h.leave filter json (closing exchange.error).1 exchange.written (closing exchange.error).2

/-- A run of the program with the words of its command line and its input. -/
def runProgram (h : Host) (words : List String) (input : List UInt8) : RunReport :=
  match Invocation.ofWords (h.environment.get? "RWP_CONFIG") words with
  | .error e => h.endEarly e.exitCode (if e == .displayVersion then versionLine else "") ""
  | .ok i =>
    match LogFilter.ofRun i.verbose (h.environment.get? "RUST_LOG") with
    | .error fault => h.endEarly faultExitCode "" (fault.message ++ "\n")
    | .ok filter =>
      match Settings.resolve h.machine.files h.directory h.environment i with
      | .error e => h.endEarly configurationExitCode "" ("Error: " ++ e.message ++ "\n")
      | .ok settings =>
        match h.perform settings .log i.action input with
        | (.ok exchange, k) => k.report filter i.jsonOutput exchange
        | (.error .unending, k) => k.endEarly 4 "" (Abort.unending.message ++ "\n")
        | (.error abort, k) =>
          k.leave filter i.jsonOutput faultExitCode (h.writtenBefore settings .log i.action input)
            (some abort.message)

end Host

end InspectionHost
