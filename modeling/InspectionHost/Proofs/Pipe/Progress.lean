import InspectionHost.Proofs.Pipe.Scene

/-!
# No output is lost, and no party waits for ever

At every time the bytes that are read, those in the pipe and those not yet written are together
the bytes of the client, in their order. The reader stands at one of five places, and the call at
one of five others; what they hold follows from that. Wherever they stand, some party can move
until the call is over, and every move brings the end nearer, so that the call is over after a
bounded number of moves, whichever party moves when.

## Main definitions

* `PipeScene.OutputStands` : where the output is.
* `PipeScene.CallStands` : where the call is.
* `PipeScene.Sound` : the invariant.
* `PipeScene.rest` : how many moves are left at most.

## Main results

* `PipeScene.Sound.step`, `PipeScene.sound_run` : the invariant holds behind every move.
* `PipeScene.Sound.exists_step` : until the call is over, some party can move.
* `PipeScene.rest_step` : every move brings the end nearer.
* `PipeScene.progress_of_run` : no output is lost, and no party waits for ever.
-/

namespace InspectionHost

namespace PipeScene

variable {bytes : List UInt8} {s t : PipeScene}

/-! ### The invariant -/

/-- Where the output of a client with the given bytes is. -/
inductive OutputStands (bytes : List UInt8) (s : PipeScene) : Prop where
  /-- Nothing is read. -/
  | unread (reader : s.reader = .absent) (channel : s.channel = [])
      (whole : bytes = s.pipe ++ s.unwritten)
  /-- A part of it is read. -/
  | reading (front : List UInt8) (reader : s.reader = .reading (LineReader.start.feed front))
      (channel : s.channel = []) (whole : bytes = front ++ s.pipe ++ s.unwritten)
  /-- The lines of all of it are read. -/
  | sending (reader : s.reader = .sending (readLines [bytes])) (channel : s.channel = [])
      (ended : s.status?.isSome)
  /-- The lines of all of it are in the channel. -/
  | sent (reader : s.reader = .gone) (channel : s.channel = [readLines [bytes]])
      (ended : s.status?.isSome)
  /-- The lines are taken out of the channel. -/
  | taken (reader : s.reader = .gone) (channel : s.channel = []) (ended : s.status?.isSome)

/-- Where the call of a client with the given bytes is. -/
inductive CallStands (bytes : List UInt8) (s : PipeScene) : Prop where
  /-- The client is not started. -/
  | unstarted (phase : s.phase = .launching) (process : s.process = none)
      (reader : s.reader = .absent)
  /-- The client is started, and the reader is not. -/
  | started (p : ClientProcess) (phase : s.phase = .launching) (process : s.process = some p)
      (reader : s.reader = .absent)
  /-- The end of the client is awaited. -/
  | waiting (p : ClientProcess) (phase : s.phase = .waiting .event) (process : s.process = some p)
      (reads : s.reader ≠ .absent) (kept : s.reader = .gone → s.channel ≠ [])
  /-- The lines are awaited. -/
  | collecting (status : ExitStatus) (phase : s.phase = .collecting status .event)
      (process : s.process = some (.reaped status)) (reads : s.reader ≠ .absent)
      (kept : s.reader = .gone → s.channel ≠ [])
  /-- The call is over, and has received the lines of all bytes. -/
  | finished (status : ExitStatus)
      (phase : s.phase = .finished (.completed status (readLines [bytes])))
      (process : s.process = some (.reaped status))

/-- The invariant of a call whose client has the given bytes to write. -/
structure Sound (bytes : List UInt8) (s : PipeScene) : Prop where
  output : s.OutputStands bytes
  call : s.CallStands bytes
  /-- A client that has ended has written all. -/
  written : s.status?.isSome → s.unwritten = []
  roomy : 0 < s.capacity

theorem sound_start (request : CallRequest) (path : String) {capacity : Nat}
    (roomy : 0 < capacity) (bytes : List UInt8) :
    (start request path capacity bytes).Sound bytes where
  output := .unread rfl rfl rfl
  call := .unstarted rfl rfl rfl
  written := nofun
  roomy := roomy

theorem Sound.write {count : Nat} (h : s.Sound bytes) (moved : s.write? count = some t) :
    t.Sound bytes := by
  obtain ⟨⟨running, -⟩, rfl⟩ := write?_eq_some.1 moved
  have hstatus : s.status? = none := by simp [status?, running, ClientProcess.status?]
  refine ⟨?_, ?_, fun ended => ?_, h.roomy⟩
  · cases h.output with
    | unread reader channel whole =>
      exact .unread reader channel (by simp [whole])
    | reading front reader channel whole =>
      exact .reading front reader channel (by simp [whole])
    | sending _ _ ended | sent _ _ ended | taken _ _ ended => simp [hstatus] at ended
  · cases h.call with
    | unstarted phase process reader => exact .unstarted phase process reader
    | started p phase process reader => exact .started p phase process reader
    | waiting p phase process reads kept => exact .waiting p phase process reads kept
    | collecting status phase process reads kept =>
      exact .collecting status phase process reads kept
    | finished status phase process => exact .finished status phase process
  · have hnone : s.status?.isSome := ended
    simp [hstatus] at hnone

theorem Sound.exit {status : ExitStatus} (h : s.Sound bytes) (moved : s.exit? status = some t) :
    t.Sound bytes := by
  obtain ⟨⟨running, written⟩, rfl⟩ := exit?_eq_some.1 moved
  refine ⟨?_, ?_, fun _ => written, h.roomy⟩
  · cases h.output with
    | unread reader channel whole => exact .unread reader channel whole
    | reading front reader channel whole => exact .reading front reader channel whole
    | sending reader channel => exact .sending reader channel rfl
    | sent reader channel => exact .sent reader channel rfl
    | taken reader channel => exact .taken reader channel rfl
  · cases h.call with
    | unstarted _ process | collecting _ _ process | finished _ _ process =>
      simp [running] at process
    | started _ phase _ reader => exact .started _ phase rfl reader
    | waiting _ phase _ reads kept => exact .waiting _ phase rfl reads kept

theorem Sound.read {count : Nat} (h : s.Sound bytes) (moved : s.read? count = some t) :
    t.Sound bytes := by
  obtain ⟨lines, hreader, -, rfl⟩ := read?_eq_some.1 moved
  refine ⟨?_, ?_, h.written, h.roomy⟩
  · cases h.output with
    | reading front reader channel whole =>
      obtain rfl : lines = LineReader.start.feed front := by simpa [hreader] using reader
      refine .reading (front ++ s.pipe.take count) ?_ channel (by simp [whole])
      rw [LineReader.feed_append]
    | unread reader | sending reader | sent reader | taken reader => simp [hreader] at reader
  · cases h.call with
    | unstarted _ _ reader | started _ _ _ reader => simp [hreader] at reader
    | waiting p phase process => exact .waiting p phase process (by simp) (by simp)
    | collecting status phase process => exact .collecting status phase process (by simp) (by simp)
    | finished status phase process => exact .finished status phase process

theorem Sound.endOfOutput (h : s.Sound bytes) (moved : s.endOfOutput? = some t) :
    t.Sound bytes := by
  obtain ⟨lines, hreader, ⟨empty, ended⟩, rfl⟩ := endOfOutput?_eq_some.1 moved
  refine ⟨?_, ?_, h.written, h.roomy⟩
  · cases h.output with
    | reading front reader channel whole =>
      obtain rfl : lines = LineReader.start.feed front := by simpa [hreader] using reader
      obtain rfl : bytes = front := by simpa [empty, h.written ended] using whole
      exact .sending rfl channel ended
    | unread reader | sending reader | sent reader | taken reader => simp [hreader] at reader
  · cases h.call with
    | unstarted _ _ reader | started _ _ _ reader => simp [hreader] at reader
    | waiting p phase process => exact .waiting p phase process (by simp) (by simp)
    | collecting status phase process => exact .collecting status phase process (by simp) (by simp)
    | finished status phase process => exact .finished status phase process

theorem Sound.send (h : s.Sound bytes) (moved : s.send? = some t) : t.Sound bytes := by
  obtain ⟨lines, hreader, -, rfl⟩ := send?_eq_some.1 moved
  refine ⟨?_, ?_, h.written, h.roomy⟩
  · cases h.output with
    | sending reader _ ended =>
      obtain rfl : lines = readLines [bytes] := by simpa [hreader] using reader
      exact .sent rfl rfl ended
    | unread reader | reading _ reader | sent reader | taken reader => simp [hreader] at reader
  · cases h.call with
    | unstarted _ _ reader | started _ _ _ reader => simp [hreader] at reader
    | waiting p phase process => exact .waiting p phase process (by simp) (by simp)
    | collecting status phase process => exact .collecting status phase process (by simp) (by simp)
    | finished status phase process => exact .finished status phase process

/-- The output stands where it stood when a process has ended that had ended before. -/
theorem OutputStands.of_ended (h : s.OutputStands bytes) (reader : t.reader = s.reader)
    (channel : t.channel = s.channel) (pipe : t.pipe = s.pipe)
    (unwritten : t.unwritten = s.unwritten) (ended : s.status?.isSome → t.status?.isSome) :
    t.OutputStands bytes := by
  cases h with
  | unread re ch whole =>
    exact .unread (reader.trans re) (channel.trans ch) (by rw [pipe, unwritten, whole])
  | reading front re ch whole =>
    exact .reading front (reader.trans re) (channel.trans ch) (by rw [pipe, unwritten, whole])
  | sending re ch ov => exact .sending (reader.trans re) (channel.trans ch) (ended ov)
  | sent re ch ov => exact .sent (reader.trans re) (channel.trans ch) (ended ov)
  | taken re ch ov => exact .taken (reader.trans re) (channel.trans ch) (ended ov)

/-- The call takes a step. -/
theorem Sound.callStep (h : s.Sound bytes) (moved : s.call? = some t) : t.Sound bytes := by
  cases h.call with
  | unstarted phase process reader =>
    obtain rfl := Option.some.inj ((call?_of_unstarted phase process).symm.trans moved)
    refine ⟨h.output.of_ended rfl rfl rfl rfl fun ended => ?_, .started _ phase rfl reader,
      fun ended => ?_, h.roomy⟩
    · simp [status?, process] at ended
    · simp [status?, ClientProcess.status?] at ended
  | started p phase process reader =>
    obtain rfl := Option.some.inj ((call?_of_started phase process).symm.trans moved)
    refine ⟨?_, .waiting p rfl process (by simp) (by simp), h.written, h.roomy⟩
    cases h.output with
    | unread _ channel whole => exact .reading [] rfl channel whole
    | reading _ other | sending other | sent other | taken other => simp [reader] at other
  | waiting p phase process reads kept =>
    obtain ⟨status, hstatus, rfl⟩ := (call?_of_waiting phase process).1 moved
    have hended : s.status?.isSome := by simp [status?, process, hstatus]
    exact ⟨h.output.of_ended rfl rfl rfl rfl fun _ => rfl, .collecting status rfl rfl reads kept,
      fun _ => h.written hended, h.roomy⟩
  | collecting status phase process reads kept =>
    obtain ⟨lines, rest, hchannel, rfl⟩ := (call?_of_collecting phase kept).1 moved
    cases h.output with
    | sent reader channel ended =>
      obtain ⟨rfl, rfl⟩ : lines = readLines [bytes] ∧ rest = [] := by
        simpa [hchannel] using channel
      exact ⟨.taken reader rfl ended, .finished status rfl process, h.written, h.roomy⟩
    | unread _ channel | reading _ _ channel | sending _ channel | taken _ channel =>
      simp [hchannel] at channel
  | finished status phase => simp [call?_of_finished phase] at moved

/-- The invariant holds behind every move. -/
theorem Sound.step {move : PipeMove} (h : s.Sound bytes) (moved : s.step? move = some t) :
    t.Sound bytes := by
  cases move with
  | write count => exact h.write moved
  | exit status => exact h.exit moved
  | read count => exact h.read moved
  | endOfOutput => exact h.endOfOutput moved
  | send => exact h.send moved
  | call => exact h.callStep moved

/-! ### Progress -/

theorem exists_step_of_eq_some (move : PipeMove) (moved : s.step? move = some t) :
    ∃ move, (s.step? move).isSome :=
  ⟨move, by rw [moved]; rfl⟩

/-- While the reader reads, the client or the reader can move. -/
theorem Sound.exists_step_of_reading (h : s.Sound bytes) {p : ClientProcess}
    (process : s.process = some p) {lines : LineReader} (reader : s.reader = .reading lines) :
    ∃ move, (s.step? move).isSome := by
  by_cases empty : s.pipe = []
  · cases hp : p.status? with
    | some status =>
      have hended : s.status?.isSome := by simp [status?, process, hp]
      exact exists_step_of_eq_some .endOfOutput
        (endOfOutput?_eq_some.2 ⟨lines, reader, ⟨empty, hended⟩, rfl⟩)
    | none =>
      have hrunning : s.process = some .running := by
        cases p <;> simp_all [ClientProcess.status?]
      by_cases done : s.unwritten = []
      · exact exists_step_of_eq_some (.exit (.code 0))
          (exit?_eq_some.2 ⟨⟨hrunning, done⟩, rfl⟩)
      · -- The pipe is empty and holds a byte at least, so there is room for the next one.
        have hleft : 1 ≤ s.unwritten.length := List.length_pos_iff.2 done
        have hroom : s.pipe.length + 1 ≤ s.capacity := by
          rw [empty]
          exact h.roomy
        exact exists_step_of_eq_some (.write 1)
          (write?_eq_some.2 ⟨⟨hrunning, Nat.one_pos, hleft, hroom⟩, rfl⟩)
  · have hfull : 1 ≤ s.pipe.length := List.length_pos_iff.2 empty
    exact exists_step_of_eq_some (.read 1)
      (read?_eq_some.2 ⟨lines, reader, ⟨Nat.one_pos, hfull⟩, rfl⟩)

theorem Sound.send_moves (h : s.Sound bytes) {lines : List String}
    (reader : s.reader = .sending lines) : (s.step? .send).isSome := by
  have hchannel : s.channel = [] := by
    cases h.output with
    | sending _ channel => exact channel
    | unread other | reading _ other | sent other | taken other => simp [reader] at other
  have moved := send?_eq_some.2 ⟨lines, reader, hchannel, rfl⟩
  exact Option.isSome_iff_exists.2 ⟨_, moved⟩

/-- Behind the start of the reader, the client or the reader can move, or the reader has ended
behind the client. -/
theorem Sound.exists_step_or_gone (h : s.Sound bytes) {p : ClientProcess}
    (process : s.process = some p) (reads : s.reader ≠ .absent) :
    (∃ move, (s.step? move).isSome) ∨ s.reader = .gone ∧ s.status?.isSome := by
  cases h.output with
  | unread reader => exact (reads reader).elim
  | reading front reader => exact .inl (h.exists_step_of_reading process reader)
  | sending reader => exact .inl ⟨.send, h.send_moves reader⟩
  | sent reader _ ended | taken reader _ ended => exact .inr ⟨reader, ended⟩

/-- Until the call is over, some party can move. -/
theorem Sound.exists_step (h : s.Sound bytes) (open_ : ∀ ending, s.phase ≠ .finished ending) :
    ∃ move, (s.step? move).isSome := by
  cases h.call with
  | unstarted phase process =>
    exact exists_step_of_eq_some .call (call?_of_unstarted phase process)
  | started p phase process =>
    exact exists_step_of_eq_some .call (call?_of_started phase process)
  | waiting p phase process reads =>
    refine (h.exists_step_or_gone process reads).elim id fun ⟨_, ended⟩ => ?_
    obtain ⟨status, hstatus⟩ := Option.isSome_iff_exists.1 ended
    have hp : p.status? = some status := by simpa [status?, process] using hstatus
    exact exists_step_of_eq_some .call ((call?_of_waiting phase process).2 ⟨status, hp, rfl⟩)
  | collecting status phase process reads kept =>
    refine (h.exists_step_or_gone process reads).elim id fun ⟨reader, _⟩ => ?_
    obtain ⟨lines, rest, hchannel⟩ := List.exists_cons_of_ne_nil (kept reader)
    exact exists_step_of_eq_some .call
      ((call?_of_collecting phase kept).2 ⟨lines, rest, hchannel, rfl⟩)
  | finished status phase => exact (open_ _ phase).elim

/-! ### How many moves are left -/

/-- How many moves of a client are left that has written all. -/
def clientRest : Option ExitStatus → Nat
  | none => 1
  | some _ => 0

/-- How many moves of a reader are left that has read all. -/
def readerRest : OutputReader → Nat
  | .absent | .reading _ => 2
  | .sending _ => 1
  | .gone => 0

/-- How many moves of a call are left, whose client is started or not. -/
def callRest (started : Bool) : CallPhase → Nat
  | .launching => if started then 3 else 4
  | .waiting _ => 2
  | .collecting _ _ => 1
  | _ => 0

/-- How many moves are left at most. A byte is written in one move and read in another. -/
def rest (s : PipeScene) : Nat :=
  2 * s.unwritten.length + s.pipe.length + clientRest s.status? + readerRest s.reader +
    callRest s.process.isSome s.phase

/-- Every step of the call brings the end nearer. -/
theorem Sound.rest_lt_of_call (h : s.Sound bytes) (moved : s.call? = some t) :
    t.rest < s.rest := by
  cases h.call with
  | unstarted phase process =>
    obtain rfl := Option.some.inj ((call?_of_unstarted phase process).symm.trans moved)
    simp [rest, status?, callRest, phase, process, ClientProcess.status?]
  | started p phase process reader =>
    obtain rfl := Option.some.inj ((call?_of_started phase process).symm.trans moved)
    simp [rest, status?, readerRest, callRest, phase, process, reader]
  | waiting p phase process reads kept =>
    obtain ⟨status, hstatus, rfl⟩ := (call?_of_waiting phase process).1 moved
    simp [rest, status?, callRest, phase, process, hstatus]
  | collecting status phase process reads kept =>
    obtain ⟨lines, others, hchannel, rfl⟩ := (call?_of_collecting phase kept).1 moved
    simp [rest, status?, callRest, phase]
  | finished status phase => simp [call?_of_finished phase] at moved

/-- Every move brings the end nearer. -/
theorem Sound.rest_lt {move : PipeMove} (h : s.Sound bytes) (moved : s.step? move = some t) :
    t.rest < s.rest := by
  cases move with
  | write count =>
    obtain ⟨⟨-, some_, enough, -⟩, rfl⟩ := write?_eq_some.1 moved
    simp only [rest, status?, List.length_append, List.length_take, List.length_drop]
    omega
  | exit status =>
    obtain ⟨⟨running, -⟩, rfl⟩ := exit?_eq_some.1 moved
    simp [rest, status?, running, clientRest, ClientProcess.status?]
  | read count =>
    obtain ⟨lines, reader, ⟨some_, enough⟩, rfl⟩ := read?_eq_some.1 moved
    simp only [rest, status?, readerRest, reader, List.length_drop]
    omega
  | endOfOutput =>
    obtain ⟨lines, reader, -, rfl⟩ := endOfOutput?_eq_some.1 moved
    simp [rest, status?, readerRest, reader]
  | send =>
    obtain ⟨lines, reader, -, rfl⟩ := send?_eq_some.1 moved
    simp [rest, status?, readerRest, reader]
  | call => exact h.rest_lt_of_call moved

/-- The invariant holds behind every run of moves, and each of them brings the end nearer. -/
theorem sound_run {moves : List PipeMove} (h : s.Sound bytes) (moved : s.run? moves = some t) :
    t.Sound bytes ∧ t.rest + moves.length ≤ s.rest := by
  induction moves using List.reverseRecOn generalizing t with
  | nil =>
    obtain rfl := Option.some.inj moved
    exact ⟨h, Nat.le_refl _⟩
  | append_singleton moves move ih =>
    rw [run?_concat] at moved
    obtain ⟨before, hbefore, hmove⟩ := Option.bind_eq_some_iff.1 moved
    obtain ⟨sound, hrest⟩ := ih hbefore
    have hlt := sound.rest_lt hmove
    refine ⟨sound.step hmove, ?_⟩
    rw [List.length_append, List.length_singleton]
    omega

/-- **No output is lost, and no party waits for ever.** Let a client be called without limits,
whose output goes through a pipe that holds one byte at least. Then for all bytes that the client
writes, and behind every run of moves of the client, the reader and the call:

* As long as the call is not over, some party can move.
* The reader can send its lines as soon as it has them.
* The call is over only when its client has ended and is reaped, and it has received the lines of
  all bytes of the client, in their order, with none missing and none twice.
* No run is longer than twice the number of the bytes and seven moves, so every run that goes on
  as long as it can comes to the end of the call. -/
theorem progress_of_run (request : CallRequest) (path : String) {capacity : Nat}
    (roomy : 0 < capacity) (bytes : List UInt8) {moves : List PipeMove} {s : PipeScene}
    (moved : (start request path capacity bytes).run? moves = some s) :
    ((∀ ending, s.phase ≠ .finished ending) → ∃ move, (s.step? move).isSome) ∧
      (∀ lines, s.reader = .sending lines → (s.step? .send).isSome) ∧
      (∀ ending, s.phase = .finished ending → ∃ status, s.process = some (.reaped status) ∧
        ending = .completed status (readLines [bytes])) ∧
      moves.length ≤ 2 * bytes.length + 7 := by
  obtain ⟨sound, hrest⟩ := sound_run (sound_start request path roomy bytes) moved
  refine ⟨sound.exists_step, fun lines reader => sound.send_moves reader,
    fun ending ended => ?_, ?_⟩
  · cases sound.call with
    | unstarted phase | started _ phase | waiting _ phase | collecting _ phase =>
      simp [phase] at ended
    | finished status phase process =>
      exact ⟨status, process, by simpa [phase, eq_comm] using ended⟩
  · have hstart : (start request path capacity bytes).rest = 2 * bytes.length + 7 := by
      simp [rest, start, status?, clientRest, readerRest, callRest]
    omega

/-- Two bytes go through a pipe that holds one, while the call waits for the end of the client. -/
theorem progress_of_run_narrow :
    let request : CallRequest :=
      ⟨.ofOptions ⟨"client", none, none⟩, .parse "a", .channel, none⟩
    0 < 1 ∧ ∃ s, (start request "client" 1 [0x61, 0x0A]).run? [.call, .write 1, .call, .read 1,
        .write 1, .read 1, .exit (.code 0), .endOfOutput, .call, .send, .call] = some s ∧
      ∃ ending, s.phase = .finished ending ∧ ∃ status, s.process = some (.reaped status) ∧
        ending = .completed status (readLines [[0x61, 0x0A]]) := by
  intro request
  obtain ⟨s, moved, ending, ended⟩ : ∃ s, (start request "client" 1 [0x61, 0x0A]).run?
      [.call, .write 1, .call, .read 1, .write 1, .read 1, .exit (.code 0), .endOfOutput, .call,
        .send, .call] = some s ∧ ∃ ending, s.phase = .finished ending := ⟨_, rfl, _, rfl⟩
  obtain ⟨-, -, received, -⟩ := progress_of_run request "client" Nat.one_pos [0x61, 0x0A] moved
  exact ⟨Nat.one_pos, s, moved, ending, ended, received ending ended⟩

end PipeScene

end InspectionHost
