import InspectionHost.Machine.Launch
import InspectionHost.ServerExit

/-!
# Processes of a machine

A machine has a clock, a file tree and processes. A process runs the steps of its script. Steps
take no time by themselves: a process runs on until it ends, sleeps, or waits for a file. The
clock advances in ticks, and in every tick each process goes as far as it can.

## Main definitions

* `Process` : a running or ended program, with what it has written.
* `Machine` : the clock, the files, the processes, and the record of all runs.
* `Machine.spawn`, `Machine.kill` : start and end a process.
* `Machine.tick` : one tick of the clock.
-/

namespace InspectionHost

/-- What a process is about to do. -/
inductive ProcessState where
  /-- It is being loaded, and runs from the given time on. -/
  | loading (ready : Nat)
  /-- It takes its next step when it can. -/
  | running
  /-- It does nothing up to the given time, and then ends by success. -/
  | sleeping (wake : Nat)
  /-- It has ended. -/
  | ended (status : ExitStatus)
  deriving DecidableEq, Repr

/-- A process of a machine. -/
structure Process where
  /-- The name under which the run is counted, if it is. -/
  name : Option String
  /-- The steps not yet done. -/
  steps : List Step
  arguments : List String
  /-- The texts of the environment. -/
  environment : List String
  directory : Place
  state : ProcessState
  /-- What was written to the output, the last first. -/
  written : List (List UInt8)
  /-- What was written to the error output and when, the last first. -/
  errors : List (Nat × List UInt8)
  /-- Whether the error output is that of the launcher. -/
  sharesErrors : Bool
  /-- Up to when children in the background hold the output open. -/
  heldUntil : Nat
  deriving Repr

namespace Process

/-- The status of an ended process. -/
def status? (p : Process) : Option ExitStatus :=
  match p.state with
  | .ended status => some status
  | _ => none

/-- The process with something written to its output. -/
def write (p : Process) (bytes : List UInt8) : Process :=
  { p with written := bytes :: p.written }

/-- The process with a text written to its output. -/
def writeText (p : Process) (text : String) : Process :=
  p.write (Text.Utf8.encode text.toList)

/-- The argument with the given number; the first has the number 1. -/
def argument? (p : Process) (number : Nat) : Option String :=
  if number = 0 then none else p.arguments[number - 1]?

/-- The process at its end. -/
def finish (p : Process) (status : ExitStatus) : Process :=
  { p with state := .ended status, steps := [] }

/-- The pieces that were written to the output, in order, once nobody can write more. -/
def output? (p : Process) (now : Nat) : Option (List (List UInt8)) :=
  if p.status?.isSome && p.heldUntil ≤ now then some p.written.reverse else none

end Process

/-- A machine with a clock in nanoseconds. -/
structure Machine where
  now : Nat
  files : FileTree
  /-- The directory that the files named by steps are in. -/
  root : Place
  /-- The processes in the order of their start. -/
  processes : List Process
  /-- The counted runs with the number of arguments of each, the last first. -/
  runs : List (String × Nat)
  deriving Repr

namespace Machine

/-- One tick of the clock: a millisecond. -/
def tickLength : Nat := 1000000

/-- How long it takes until a program runs: two milliseconds. -/
def loadingTime : Nat := 2000000

/-- How long a process sleeps that hangs: five seconds. -/
def hangTime : Nat := 5000000000

/-- How long a child in the background holds the output open: three seconds. -/
def lingerTime : Nat := 3000000000

/-- A machine at the start of its clock, with its files. -/
def boot (files : FileTree) (root : Place) : Machine := ⟨0, files, root, [], []⟩

/-- Whether a file named by a step exists. -/
def fileExists (m : Machine) (path : String) : Bool :=
  m.files.reaches m.root path

/-- Make sure that a file named by a step exists. -/
def touch (m : Machine) (path : String) : Machine :=
  { m with files := m.files.touch m.root path }

/-- How often a program has been run. -/
def runCount (m : Machine) (name : Option String) : Nat :=
  (m.runs.filter fun run => some run.1 == name).length

/-- What becomes of a process that gets a signal. Some signals are ignored. -/
def signalled (p : Process) (number : Nat) : Process :=
  if number = 0 ∨ number ∈ [17, 18, 23, 28] then p else p.finish (.signal number)

/-- Do one step of a process, whose other steps are those of the process. -/
def perform (m : Machine) (p : Process) : Step → Machine × Process
  | .out bytes => (m, p.write bytes)
  | .err bytes => (m, { p with errors := (m.now, bytes) :: p.errors })
  | .argument number => (m, p.writeText ((p.argument? number).getD ""))
  | .argumentCount => (m, p.writeText (Text.Decimal.print p.arguments.length))
  | .variable name => (m, p.writeText ((Environment.readBlock p.environment name).getD ""))
  | .directoryName => (m, p.writeText (p.directory.getLast?.getD "/"))
  | .copyInput => (m, p)
  | .runCount => (m, p.writeText (Text.Decimal.print (m.runCount p.name)))
  | .touch path => (m.touch path, p)
  | .await path =>
    (m, if m.fileExists path then p else { p with steps := .await path :: p.steps })
  | .ifArgument number expected steps =>
    (m, if Text.Utf8.encode ((p.argument? number).getD "").toList == expected then
        { p with steps := steps ++ p.steps }
      else p)
  | .linger => (m, { p with heldUntil := max p.heldUntil (m.now + lingerTime) })
  | .hang => (m, { p with state := .sleeping (m.now + hangTime), steps := [] })
  | .exit code => (m, p.finish (.code (code % 256)))
  | .signal number => (m, signalled p number)

/-- Whether a process waits for a file that does not exist. -/
def isBlocked (m : Machine) (p : Process) : Bool :=
  match p.steps with
  | .await path :: _ => !m.fileExists path
  | _ => false

/-- Let a process run as far as it can, for at most `fuel` steps. A script without further steps
ends by success. -/
def run (fuel : Nat) (m : Machine) (p : Process) : Machine × Process :=
  match fuel with
  | 0 => (m, p)
  | fuel + 1 =>
    match p.state, p.steps with
    | .running, [] => (m, p.finish (.code 0))
    | .running, s :: rest =>
      if m.isBlocked p then (m, p)
      else
        let (m, p) := m.perform { p with steps := rest } s
        run fuel m p
    | _, _ => (m, p)

/-- Let a process run as far as it can. -/
def runFreely (m : Machine) (p : Process) : Machine × Process :=
  m.run (Step.weight.weights p.steps + 1) p

/-- What a process does in a tick. A run is counted when the program starts to run. -/
def advance (m : Machine) (p : Process) : Machine × Process :=
  match p.state with
  | .loading ready =>
    if ready ≤ m.now then
      let m := match p.name with
        | some name => { m with runs := (name, p.arguments.length) :: m.runs }
        | none => m
      m.runFreely { p with state := .running }
    else (m, p)
  | .running => m.runFreely p
  | .sleeping wake => (m, if wake ≤ m.now then p.finish (.code 0) else p)
  | .ended _ => (m, p)

/-- Let all processes do what they do in a tick. -/
def advanceAll (m : Machine) : List Process → Machine × List Process
  | [] => (m, [])
  | p :: rest =>
    let (m, p) := m.advance p
    let (m, rest) := advanceAll m rest
    (m, p :: rest)

/-- One tick of the clock. -/
def tick (m : Machine) : Machine :=
  let m := { m with now := m.now + tickLength }
  let (m, processes) := m.advanceAll m.processes
  { m with processes }

/-- Start a program, whose error output may be that of the launcher. The number of its process
is the number of processes before it. -/
def spawn (m : Machine) (image : Image) (sharesErrors : Bool) : Nat × Machine :=
  (m.processes.length, { m with processes := m.processes ++ [{
    name := image.script.name
    steps := image.script.steps
    arguments := image.arguments
    environment := image.environment
    directory := image.directory
    state := .loading (m.now + loadingTime)
    written := []
    errors := []
    sharesErrors
    heldUntil := 0 }] })

/-- The status of a process, once it has ended. -/
def status? (m : Machine) (process : Nat) : Option ExitStatus :=
  m.processes[process]?.bind Process.status?

/-- The pieces of the output of a process, once nobody can write more. -/
def output? (m : Machine) (process : Nat) : Option (List (List UInt8)) :=
  m.processes[process]?.bind fun p => p.output? m.now

/-- End a process by force, unless it has ended. -/
def kill (m : Machine) (process : Nat) : Machine :=
  { m with processes := m.processes.modify process fun p =>
      if p.status?.isSome then p else p.finish (.signal 9) }

/-- The numbers of arguments of the counted runs of a program, in order. -/
def argumentCounts (m : Machine) (name : String) : List Nat :=
  (m.runs.reverse.filter fun run => run.1 == name).map Prod.snd

/-- The names of the programs with counted runs, each once. -/
def runNames (m : Machine) : List String :=
  (m.runs.reverse.map Prod.fst).eraseDups

end Machine

end InspectionHost
