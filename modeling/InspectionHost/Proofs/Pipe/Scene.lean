import InspectionHost.Client.LineReader
import InspectionHost.Proofs.Call.Scene

/-!
# The pipe between a client and its call

The output of a client goes through a pipe that holds a bounded number of bytes. Three parties
move on their own: the client writes, waits while the pipe is full, and ends when all is written;
the reader takes bytes out of the pipe, and when the pipe is empty and the client has ended, it
sends the lines through a channel that holds one message; the call, which has no limits, starts
the client and then the reader, waits for the end of the client, and receives the lines. A move
that a party cannot make at the moment is a move that it waits for.

## Main definitions

* `OutputReader` : the reader of the output.
* `PipeScene` : the client, the pipe, the reader, the channel and the call.
* `PipeMove` : the moves of the three parties.
* `PipeScene.step?` : the scene behind a move, if the move can be made.
* `PipeScene.run?` : the scene behind moves, if they can be made one after the other.

## Main results

* `PipeScene.write?_eq_some` and its like : when a move can be made, and what it does.
-/

namespace InspectionHost

/-- The reader of the output of a client. -/
inductive OutputReader where
  /-- It is not started. -/
  | absent
  /-- It reads, and has read so far. -/
  | reading (lines : LineReader)
  /-- It has come to the end of the output, and sends the lines. -/
  | sending (lines : List String)
  /-- It has sent the lines and has ended. -/
  | gone
  deriving DecidableEq, Repr

/-- A call without limits, its client, and what is between them. -/
structure PipeScene where
  request : CallRequest
  /-- Where the program of the client is. -/
  path : String
  /-- How many bytes the pipe holds at most. -/
  capacity : Nat
  /-- What the client still has to write. -/
  unwritten : List UInt8
  /-- The bytes in the pipe, the next to be read first. -/
  pipe : List UInt8
  /-- The process of the client, once it is started. -/
  process : Option ClientProcess
  reader : OutputReader
  /-- The messages in the channel. -/
  channel : List (List String)
  phase : CallPhase

/-- A move of one of the parties. -/
inductive PipeMove where
  /-- The client writes so many bytes. -/
  | write (count : Nat)
  /-- The client ends. -/
  | exit (status : ExitStatus)
  /-- The reader reads so many bytes. -/
  | read (count : Nat)
  /-- The reader finds the end of the output. -/
  | endOfOutput
  /-- The reader sends the lines. -/
  | send
  /-- The call takes its next step. -/
  | call
  deriving DecidableEq, Repr

namespace PipeScene

/-- A call that has not begun, for a client that has some bytes to write. -/
def start (request : CallRequest) (path : String) (capacity : Nat) (bytes : List UInt8) :
    PipeScene where
  request := request
  path := path
  capacity := capacity
  unwritten := bytes
  pipe := []
  process := none
  reader := .absent
  channel := []
  phase := .launching

/-- The status of the client, once it has ended. -/
def status? (s : PipeScene) : Option ExitStatus :=
  s.process.bind ClientProcess.status?

/-- What the call can see. -/
def glance (s : PipeScene) : Glance where
  exit := match s.status? with
    | some status => .ended status
    | none => .pending
  capture := match s.channel, s.reader with
    | lines :: _, _ => .lines lines
    | [], .gone => .lost
    | [], _ => .pending
  cancelled := false
  now := 0

/-- The client writes bytes for which there is room. -/
def write? (s : PipeScene) (count : Nat) : Option PipeScene :=
  if s.process = some .running ∧ 0 < count ∧ count ≤ s.unwritten.length ∧
      s.pipe.length + count ≤ s.capacity then
    some { s with
      pipe := s.pipe ++ s.unwritten.take count
      unwritten := s.unwritten.drop count }
  else none

/-- The client ends when it has written all. -/
def exit? (s : PipeScene) (status : ExitStatus) : Option PipeScene :=
  if s.process = some .running ∧ s.unwritten = [] then
    some { s with process := some (.ended status) }
  else none

/-- The reader reads bytes that are in the pipe. -/
def read? (s : PipeScene) (count : Nat) : Option PipeScene :=
  match s.reader with
  | .reading lines =>
    if 0 < count ∧ count ≤ s.pipe.length then
      some { s with reader := .reading (lines.feed (s.pipe.take count)), pipe := s.pipe.drop count }
    else none
  | _ => none

/-- The output has come to its end when the pipe is empty and the client has ended. -/
def endOfOutput? (s : PipeScene) : Option PipeScene :=
  match s.reader with
  | .reading lines =>
    if s.pipe = [] ∧ s.status?.isSome then some { s with reader := .sending lines.finish }
    else none
  | _ => none

/-- The reader sends the lines when there is room in the channel. -/
def send? (s : PipeScene) : Option PipeScene :=
  match s.reader with
  | .sending lines =>
    if s.channel.length < 1 then some { s with reader := .gone, channel := s.channel ++ [lines] }
    else none
  | _ => none

/-- Whether the call waits for something that is not there, or is over. -/
def blocks (s : PipeScene) : Bool :=
  match s.phase with
  | .waiting .event => s.glance.exit = .pending
  | .collecting _ .event => s.glance.capture = .pending
  | .finished _ | .aborted _ => true
  | _ => false

/-- The call starts the client, starts the reader, and then goes through its phases. It takes a
message out of the channel when it has waited for one. -/
def call? (s : PipeScene) : Option PipeScene :=
  match s.phase, s.process with
  | .launching, none => some { s with process := some .running }
  | .launching, some _ =>
    some { s with
      reader := .reading .start
      phase := .ofLaunch s.request.client.options.program (.ok ⟨none, false⟩)
        ((LaunchAnswer.running s.path (.ok ())).result s.request) }
  | phase, process =>
    if s.blocks then none
    else some { s with
      process := process.map (·.after phase s.glance false)
      channel := match phase with
        | .collecting _ .event => s.channel.tail
        | _ => s.channel
      phase := phase.step ⟨none, false⟩ s.glance }

/-- The scene behind a move, if the move can be made. -/
def step? (s : PipeScene) : PipeMove → Option PipeScene
  | .write count => s.write? count
  | .exit status => s.exit? status
  | .read count => s.read? count
  | .endOfOutput => s.endOfOutput?
  | .send => s.send?
  | .call => s.call?

/-- The scene behind moves, if they can be made one after the other. -/
def run? (s : PipeScene) (moves : List PipeMove) : Option PipeScene :=
  moves.foldlM step? s

variable {s t : PipeScene} {count : Nat} {status : ExitStatus}

/-! ### When a move can be made -/

theorem write?_eq_some : s.write? count = some t ↔
    (s.process = some .running ∧ 0 < count ∧ count ≤ s.unwritten.length ∧
      s.pipe.length + count ≤ s.capacity) ∧
    t = { s with
      pipe := s.pipe ++ s.unwritten.take count, unwritten := s.unwritten.drop count } := by
  simp only [write?, Option.ite_none_right_eq_some, Option.some.injEq, eq_comm (a := t)]

theorem exit?_eq_some : s.exit? status = some t ↔
    (s.process = some .running ∧ s.unwritten = []) ∧
    t = { s with process := some (.ended status) } := by
  simp only [exit?, Option.ite_none_right_eq_some, Option.some.injEq, eq_comm (a := t)]

theorem read?_eq_some : s.read? count = some t ↔
    ∃ lines, s.reader = .reading lines ∧ (0 < count ∧ count ≤ s.pipe.length) ∧
      t = { s with
        reader := .reading (lines.feed (s.pipe.take count)), pipe := s.pipe.drop count } := by
  cases hr : s.reader <;> simp [read?, hr, eq_comm (a := t)]

theorem endOfOutput?_eq_some : s.endOfOutput? = some t ↔
    ∃ lines, s.reader = .reading lines ∧ (s.pipe = [] ∧ s.status?.isSome) ∧
      t = { s with reader := .sending lines.finish } := by
  cases hr : s.reader <;> simp [endOfOutput?, hr, eq_comm (a := t)]

theorem send?_eq_some : s.send? = some t ↔
    ∃ lines, s.reader = .sending lines ∧ s.channel = [] ∧
      t = { s with reader := .gone, channel := [lines] } := by
  cases hr : s.reader with
  | sending lines => cases hc : s.channel <;> simp [send?, hr, hc, eq_comm (a := t)]
  | _ => simp [send?, hr]

theorem call?_of_unstarted (phase : s.phase = .launching) (process : s.process = none) :
    s.call? = some { s with process := some .running } := by
  simp [call?, phase, process]

theorem call?_of_started {p : ClientProcess} (phase : s.phase = .launching)
    (process : s.process = some p) :
    s.call? = some { s with reader := .reading .start, phase := .waiting .event } := by
  simp [call?, phase, process, CallPhase.ofLaunch, LaunchAnswer.result, LaunchResult.ofOutput,
    Client.launch]

theorem call?_of_waiting {p : ClientProcess} (phase : s.phase = .waiting .event)
    (process : s.process = some p) : s.call? = some t ↔ ∃ status, p.status? = some status ∧
      t = { s with process := some (.reaped status), phase := .collecting status .event } := by
  cases hp : p.status? with
  | none => simp [call?, phase, blocks, glance, status?, process, hp]
  | some status =>
    simp [call?, phase, blocks, glance, status?, process, hp, CallPhase.step, CallPhase.awaitExit,
      ClientProcess.after, ClientProcess.reap_of_status? hp, eq_comm (a := t)]

/-- A call that waits for the output goes on when there is a message in the channel. -/
theorem call?_of_collecting (phase : s.phase = .collecting status .event)
    (kept : s.reader = .gone → s.channel ≠ []) :
    s.call? = some t ↔ ∃ lines rest, s.channel = lines :: rest ∧
      t = { s with channel := rest, phase := .finished (.completed status lines) } := by
  cases hc : s.channel with
  | nil =>
    have hpending : s.glance.capture = .pending := by
      cases hr : s.reader <;> simp_all [glance]
    simp [call?, phase, blocks, hpending]
  | cons lines rest =>
    simp [call?, phase, blocks, glance, hc, CallPhase.step, CallPhase.awaitLines, eq_comm (a := t)]

theorem call?_of_finished {ending : CallEnding} (phase : s.phase = .finished ending) :
    s.call? = none := by
  simp [call?, phase, blocks]

theorem run?_concat (s : PipeScene) (moves : List PipeMove) (move : PipeMove) :
    s.run? (moves ++ [move]) = (s.run? moves).bind (·.step? move) := by
  simp [run?, List.foldlM_append]

end PipeScene

end InspectionHost
