import InspectionHost.Client.ActiveCall
import Mathlib.Data.List.Induction

/-!
# The scene of a client call

A call is one of several parties. The client ends when it likes, the reader of its output comes
to an end before or after that, the caller cancels the call at some time or never, and the clock
goes on; the call itself takes one step at a turn. A course is a list of such events in any
order, and the events that fall between two steps of a call stand between two of its turns.

The scene keeps what the system knows of the process of the client, and a record of what the
call has done: the processes it has started and killed, the end of the client that it has found,
and the output that it has collected.

## Main definitions

* `ClientProcess` : the process of a client, which runs, has ended, or is reaped.
* `CallEvent` : the events of a course.
* `CallRecord` : what a call has done.
* `CallScene` : a call with the system around it.
* `CallScene.turn` : one step of the call.
* `CallScene.run` : the scene at the end of a course.

## Main results

* `CallScene.answer_run`, `CallScene.request_run` : what is asked for does not change, and how
  the system answers the launch does not either.
* `CallScene.exists_turns_of_look` : a whole look is a few turns in a row.
-/

namespace InspectionHost

/-! ### The process of a client -/

/-- The process of a client. -/
inductive ClientProcess where
  | running
  /-- It has ended, and nobody has taken its status. -/
  | ended (status : ExitStatus)
  /-- It has ended, its status is taken, and nothing of it is left. -/
  | reaped (status : ExitStatus)
  deriving DecidableEq, Repr

namespace ClientProcess

/-- The status of a process that has ended. -/
def status? : ClientProcess → Option ExitStatus
  | running => none
  | ended status | reaped status => some status

/-- Whether the status has been taken. -/
def isReaped : ClientProcess → Bool
  | reaped _ => true
  | _ => false

/-- The process ends, unless it has ended before. -/
def exit (status : ExitStatus) : ClientProcess → ClientProcess
  | running => ended status
  | p => p

/-- The process is killed. -/
def kill : ClientProcess → ClientProcess :=
  exit (.signal 9)

/-- The status is taken, if there is one. -/
def reap : ClientProcess → ClientProcess
  | ended status => reaped status
  | p => p

/-- What a step of a call does to the process: it is reaped by a step that learns its end, and
killed by a step that kills it unless the system refuses. -/
def after (phase : CallPhase) (g : Glance) (refused : Bool) (p : ClientProcess) : ClientProcess :=
  match phase with
  | .waiting .event | .reaping _ =>
    match g.exit with
    | .ended _ => p.reap
    | _ => p
  | .killing _ => if refused then p else p.kill
  | _ => p

@[simp] theorem isReaped_exit (status : ExitStatus) (p : ClientProcess) :
    (p.exit status).isReaped = p.isReaped := by
  cases p <;> rfl

@[simp] theorem status?_reaped (status : ExitStatus) : (reaped status).status? = some status :=
  rfl

@[simp] theorem status?_exit (status : ExitStatus) (p : ClientProcess) :
    (p.exit status).status? = some (p.status?.getD status) := by
  cases p <;> rfl

@[simp] theorem exit_reaped (status final : ExitStatus) :
    (reaped final).exit status = reaped final :=
  rfl

@[simp] theorem isReaped_kill (p : ClientProcess) : p.kill.isReaped = p.isReaped :=
  isReaped_exit ..

theorem reap_of_status? {p : ClientProcess} {status : ExitStatus} (h : p.status? = some status) :
    p.reap = reaped status := by
  cases p <;> simp_all [status?, reap]

theorem after_waiting_of_pending {stage : LookStage} {g : Glance}
    (nothing : stage = .event → g.exit = .pending) (refused : Bool) (p : ClientProcess) :
    p.after (.waiting stage) g refused = p := by
  cases stage <;> simp_all [after]

@[simp] theorem isReaped_after_killing (f : Failure) (g : Glance) (refused : Bool)
    (p : ClientProcess) : (p.after (.killing f) g refused).isReaped = p.isReaped := by
  cases refused with
  | true => rfl
  | false => exact isReaped_kill p

theorem status?_after {phase : CallPhase} (spared : ∀ f, phase ≠ .killing f) (g : Glance)
    (refused : Bool) (p : ClientProcess) : (p.after phase g refused).status? = p.status? := by
  unfold after
  split
  · split
    · cases p <;> rfl
    · rfl
  · split
    · cases p <;> rfl
    · rfl
  · next f => exact (spared f rfl).elim
  · rfl

@[simp] theorem after_collecting (status : ExitStatus) (stage : LookStage) (g : Glance)
    (refused : Bool) (p : ClientProcess) :
    p.after (.collecting status stage) g refused = p :=
  rfl

end ClientProcess

/-! ### Courses -/

/-- What the system answers when a client is launched. -/
inductive LaunchAnswer where
  | notFound
  | refused (error : IoError)
  /-- The program at the path runs, and a reader of its output could be made or not. -/
  | running (path : String) (reader : Except IoError Unit)

namespace LaunchAnswer

/-- Whether a process is started. -/
def runs : LaunchAnswer → Bool
  | running _ _ => true
  | _ => false

/-- How the launch goes for what is asked for. -/
def result (r : CallRequest) : LaunchAnswer → LaunchResult
  | notFound => .notFound
  | refused error => .refused error
  | running path reader => .ofOutput (r.client.launch path r.command).output reader

end LaunchAnswer

/-- What the system refuses in a turn of a call. -/
inductive TurnFault where
  /-- It does not tell how the client is. -/
  | wait (error : IoError)
  /-- It does not kill the client. -/
  | kill
  deriving DecidableEq, Repr

/-- An event of a course. -/
inductive CallEvent where
  /-- The client ends. -/
  | exits (status : ExitStatus)
  /-- The reader of the output comes to its end. -/
  | captures (capture : Capture)
  /-- The caller cancels the call. -/
  | cancels
  /-- Time passes. -/
  | passes (nanos : Nat)
  /-- The call takes a step. -/
  | turn (fault : Option TurnFault)
  deriving DecidableEq, Repr

/-- What a call has done. -/
structure CallRecord where
  /-- The reading of the clock when the call was launched. -/
  launchedAt : Option Nat
  /-- How many processes it has started. -/
  launches : Nat
  /-- How often it has asked the system to kill one. -/
  kills : Nat
  /-- The status of the client, when the wait for its end has found it. -/
  found : Option ExitStatus
  /-- The output of the client, when the call has received it. -/
  collected : Option (List String)
  deriving DecidableEq, Repr

namespace CallRecord

/-- Nothing is done. -/
def blank : CallRecord := ⟨none, 0, 0, none, none⟩

/-- The record behind a step of a call. -/
def after (phase : CallPhase) (g : Glance) (r : CallRecord) : CallRecord :=
  match phase with
  | .waiting .event =>
    match g.exit with
    | .ended status => { r with found := some status }
    | _ => r
  | .killing _ => { r with kills := r.kills + 1 }
  | .collecting _ .event =>
    match g.capture with
    | .lines lines => { r with collected := some lines }
    | _ => r
  | _ => r

theorem after_waiting_of_pending {stage : LookStage} {g : Glance}
    (nothing : stage = .event → g.exit = .pending) (r : CallRecord) :
    r.after (.waiting stage) g = r := by
  cases stage <;> simp_all [after]

theorem after_collecting_of_ne_lines {status : ExitStatus} {stage : LookStage} {g : Glance}
    (nothing : stage = .event → ∀ lines, g.capture ≠ .lines lines) (r : CallRecord) :
    r.after (.collecting status stage) g = r := by
  cases stage with
  | event =>
    cases capture : g.capture with
    | lines lines => exact (nothing rfl lines capture).elim
    | _ => simp only [after, capture]
  | _ => rfl

theorem found_after (phase : CallPhase) (g : Glance) (r : CallRecord) (h : r.found.isSome) :
    (r.after phase g).found.isSome := by
  unfold after
  split
  · split
    · rfl
    · exact h
  · exact h
  · split
    · exact h
    · exact h
  · exact h

theorem collected_after (phase : CallPhase) (g : Glance) (r : CallRecord)
    (h : r.collected.isSome) : (r.after phase g).collected.isSome := by
  unfold after
  split
  · split
    · exact h
    · exact h
  · exact h
  · split
    · rfl
    · exact h
  · exact h

theorem found_of_after {phase : CallPhase} {g : Glance} {r : CallRecord}
    (h : (r.after phase g).found.isSome) :
    r.found.isSome ∨ phase = .waiting .event ∧ ∃ status, g.exit = .ended status := by
  unfold after at h
  split at h
  · split at h
    · next status exit => exact .inr ⟨rfl, status, exit⟩
    · exact .inl h
  · exact .inl h
  · split at h <;> exact .inl h
  · exact .inl h

theorem collected_of_after {phase : CallPhase} {g : Glance} {r : CallRecord}
    (h : (r.after phase g).collected.isSome) : r.collected.isSome ∨
      (∃ status, phase = .collecting status .event) ∧ ∃ lines, g.capture = .lines lines := by
  unfold after at h
  split at h
  · split at h <;> exact .inl h
  · exact .inl h
  · next status =>
    split at h
    · next lines capture => exact .inr ⟨⟨status, rfl⟩, lines, capture⟩
    · exact .inl h
  · exact .inl h

theorem kills_after {phase : CallPhase} (spared : ∀ f, phase ≠ .killing f) (g : Glance)
    (r : CallRecord) : (r.after phase g).kills = r.kills := by
  unfold after
  split
  · split <;> rfl
  · next f => exact (spared f rfl).elim
  · split <;> rfl
  · rfl

@[simp] theorem launchedAt_after (phase : CallPhase) (g : Glance) (r : CallRecord) :
    (r.after phase g).launchedAt = r.launchedAt := by
  unfold after
  split
  · split <;> rfl
  · rfl
  · split <;> rfl
  · rfl

end CallRecord

/-- A call with the system around it. -/
structure CallScene where
  /-- What the system answers when the client is launched. -/
  answer : LaunchAnswer
  /-- The process of the client, once it is started. -/
  process : Option ClientProcess
  /-- What the reader of the output has sent. -/
  capture : Capture
  /-- Whether the token of the call is cancelled. -/
  cancelled : Bool
  /-- The reading of the clock. -/
  now : Nat
  call : ActiveCall
  record : CallRecord
  /-- The diagnostics that were handed to the sink. -/
  diagnostics : List Diagnostic

namespace CallScene

/-- A call that somebody asks for. -/
def start (answer : LaunchAnswer) (r : CallRequest) : CallScene where
  answer := answer
  process := none
  capture := .pending
  cancelled := false
  now := 0
  call := .new r
  record := .blank
  diagnostics := []

/-- What can be seen in a turn of the call. -/
def glance (s : CallScene) (fault : Option TurnFault) : Glance where
  exit := match fault, s.process.bind ClientProcess.status? with
    | some (.wait error), _ => .failed error
    | _, some status => .ended status
    | _, none => .pending
  capture := s.capture
  cancelled := s.call.token.isSome && s.cancelled
  now := s.now

/-- The client is launched. -/
def launch (s : CallScene) : CallScene :=
  { s with
    process := if s.answer.runs then some .running else none
    call := s.call.launched (s.answer.result s.call.toCallRequest) none s.now
    record := { s.record with
      launchedAt := some s.now
      launches := s.record.launches + if s.answer.runs then 1 else 0 } }

/-- The call takes a step of its phase. -/
def step (s : CallScene) (fault : Option TurnFault) : CallScene :=
  let g := s.glance fault
  { s with
    process := s.process.map (·.after s.call.phase g (fault == some .kill))
    call := s.call.advance g
    record := s.record.after s.call.phase g }

/-- The call is over or aborted, and its diagnostic is handed to the sink, if it has one. -/
def conclude (s : CallScene) : CallScene :=
  { s with
    call := s.call.conclude.2
    diagnostics := s.diagnostics ++ s.call.conclude.1 }

theorem phase_step (s : CallScene) (fault : Option TurnFault) :
    (s.step fault).call.phase = s.call.phase.step s.call.limits (s.glance fault) :=
  rfl

theorem process_step (s : CallScene) (fault : Option TurnFault) :
    (s.step fault).process =
      s.process.map (·.after s.call.phase (s.glance fault) (fault == some .kill)) :=
  rfl

theorem record_step (s : CallScene) (fault : Option TurnFault) :
    (s.step fault).record = s.record.after s.call.phase (s.glance fault) :=
  rfl

theorem limits_step (s : CallScene) (fault : Option TurnFault) :
    (s.step fault).call.limits = s.call.limits :=
  rfl

/-- A turn of the call. -/
def turn (s : CallScene) (fault : Option TurnFault) : CallScene :=
  match s.call.phase with
  | .launching => s.launch
  | .finished _ | .aborted _ => s.conclude
  | _ => s.step fault

/-- The scene behind an event. Only a client that was started ends and writes, and its output
comes to an end once. -/
def apply (s : CallScene) : CallEvent → CallScene
  | .exits status => { s with process := s.process.map (·.exit status) }
  | .captures capture =>
    { s with capture := if s.process.isSome && s.capture == .pending then capture else s.capture }
  | .cancels => { s with cancelled := true }
  | .passes nanos => { s with now := s.now + nanos }
  | .turn fault => s.turn fault

theorem call_apply_of_ne_turn {s : CallScene} {e : CallEvent} (h : ∀ fault, e ≠ .turn fault) :
    (s.apply e).call = s.call := by
  cases e with
  | turn fault => exact (h fault rfl).elim
  | _ => rfl

/-- The scene at the end of a course. -/
def run (s : CallScene) (events : List CallEvent) : CallScene :=
  events.foldl apply s

@[simp] theorem run_nil (s : CallScene) : s.run [] = s :=
  rfl

@[simp] theorem run_cons (s : CallScene) (e : CallEvent) (events : List CallEvent) :
    s.run (e :: events) = (s.apply e).run events :=
  rfl

@[simp] theorem run_append (s : CallScene) (events rest : List CallEvent) :
    s.run (events ++ rest) = (s.run events).run rest :=
  List.foldl_append

/-! ### What does not change -/

theorem answer_turn (s : CallScene) (fault : Option TurnFault) :
    (s.turn fault).answer = s.answer := by
  unfold turn
  split <;> rfl

theorem request_turn (s : CallScene) (fault : Option TurnFault) :
    (s.turn fault).call.toCallRequest = s.call.toCallRequest := by
  unfold turn
  split
  · rfl
  · exact s.call.toCallRequest_conclude
  · exact s.call.toCallRequest_conclude
  · rfl

theorem answer_apply (s : CallScene) (e : CallEvent) : (s.apply e).answer = s.answer := by
  cases e with
  | turn fault => exact answer_turn s fault
  | _ => rfl

theorem request_apply (s : CallScene) (e : CallEvent) :
    (s.apply e).call.toCallRequest = s.call.toCallRequest := by
  cases e with
  | turn fault => exact request_turn s fault
  | _ => rfl

/-- The system answers the launch in one way. -/
@[simp] theorem answer_run (s : CallScene) (events : List CallEvent) :
    (s.run events).answer = s.answer := by
  induction events generalizing s with
  | nil => rfl
  | cons e events ih => rw [run_cons, ih, answer_apply]

/-- What is asked for stays the same. -/
@[simp] theorem request_run (s : CallScene) (events : List CallEvent) :
    (s.run events).call.toCallRequest = s.call.toCallRequest := by
  induction events generalizing s with
  | nil => rfl
  | cons e events ih => rw [run_cons, ih, request_apply]

/-! ### What a turn changes -/

@[simp] theorem capture_turn (s : CallScene) (fault : Option TurnFault) :
    (s.turn fault).capture = s.capture := by
  unfold turn
  split <;> rfl

theorem isSome_process_turn {s : CallScene} (launched : s.call.phase ≠ .launching)
    (fault : Option TurnFault) : (s.turn fault).process.isSome = s.process.isSome := by
  unfold turn
  split
  · next fresh => exact (launched fresh).elim
  · rfl
  · rfl
  · rw [process_step, Option.isSome_map]

theorem status?_step {s : CallScene} (spared : ∀ f, s.call.phase ≠ .killing f)
    (fault : Option TurnFault) : (s.step fault).process.bind ClientProcess.status? =
      s.process.bind ClientProcess.status? := by
  cases process : s.process with
  | none => simp [process_step, process]
  | some p => simp [process_step, process, ClientProcess.status?_after spared]

theorem status?_turn {s : CallScene} (launched : s.call.phase ≠ .launching)
    (spared : ∀ f, s.call.phase ≠ .killing f) (fault : Option TurnFault) :
    (s.turn fault).process.bind ClientProcess.status? =
      s.process.bind ClientProcess.status? := by
  unfold turn
  split
  · next fresh => exact (launched fresh).elim
  · rfl
  · rfl
  · exact status?_step spared fault

theorem spared_of_turn {s : CallScene} {fault : Option TurnFault}
    (spared : (s.turn fault).record.kills = 0) :
    s.record.kills = 0 ∧ ∀ f, s.call.phase ≠ .killing f := by
  cases phase : s.call.phase with
  | killing f => simp [turn, phase, record_step, CallRecord.after] at spared
  | launching | finished _ | aborted _ => simpa [turn, phase, launch, conclude] using spared
  | _ =>
    simp only [turn, phase, record_step] at spared
    rw [CallRecord.kills_after (by simp)] at spared
    exact ⟨spared, by simp⟩

theorem found_turn {s : CallScene} (h : s.record.found.isSome) (fault : Option TurnFault) :
    (s.turn fault).record.found.isSome := by
  unfold turn
  split
  · exact h
  · exact h
  · exact h
  · exact s.record.found_after _ _ h

theorem collected_turn {s : CallScene} (h : s.record.collected.isSome)
    (fault : Option TurnFault) : (s.turn fault).record.collected.isSome := by
  unfold turn
  split
  · exact h
  · exact h
  · exact h
  · exact s.record.collected_after _ _ h

theorem found_of_turn {s : CallScene} {fault : Option TurnFault}
    (h : (s.turn fault).record.found.isSome) : s.record.found.isSome ∨
      s.call.phase = .waiting .event ∧ ∃ status, (s.glance fault).exit = .ended status := by
  unfold turn at h
  split at h
  · exact .inl h
  · exact .inl h
  · exact .inl h
  · exact CallRecord.found_of_after h

theorem collected_of_turn {s : CallScene} {fault : Option TurnFault}
    (h : (s.turn fault).record.collected.isSome) : s.record.collected.isSome ∨
      (∃ status, s.call.phase = .collecting status .event) ∧
        ∃ lines, s.capture = .lines lines := by
  unfold turn at h
  split at h
  · exact .inl h
  · exact .inl h
  · exact .inl h
  · exact CallRecord.collected_of_after h

/-! ### Whole looks -/

theorem glance_step {s : CallScene} (spared : ∀ f, s.call.phase ≠ .killing f)
    (fault next : Option TurnFault) : (s.step fault).glance next = s.glance next := by
  simp only [glance, status?_step spared]
  rfl

/-- The rest of a look is a few turns in a row. -/
theorem exists_turns_of_lookOn (s : CallScene) (steps : Nat) :
    ∃ turns ≤ steps, (s.run (List.replicate turns (.turn none))).call.phase =
      s.call.phase.lookOn s.call.limits (s.glance none) steps := by
  induction steps generalizing s with
  | zero => exact ⟨0, Nat.le_refl _, rfl⟩
  | succ steps ih =>
    cases looking : s.call.phase.isLooking with
    | false => exact ⟨0, Nat.zero_le _, by simp [CallPhase.lookOn, looking]⟩
    | true =>
      have hturn : s.turn none = s.step none := by
        unfold turn
        split <;> simp_all [CallPhase.isLooking]
      have spared (f : Failure) : s.call.phase ≠ .killing f := by
        intro killing
        simp [killing, CallPhase.isLooking] at looking
      obtain ⟨turns, few, h⟩ := ih (s.step none)
      refine ⟨turns + 1, Nat.succ_le_succ few, ?_⟩
      rw [List.replicate_succ, run_cons, apply, hturn, h, glance_step spared, phase_step,
        limits_step, CallPhase.lookOn, if_pos looking]

/-- A whole look at one moment is a few turns in a row, with nothing happening between them. -/
theorem exists_turns_of_look (s : CallScene) :
    ∃ turns ≤ 3, (s.run (List.replicate turns (.turn none))).call.phase =
      s.call.phase.look s.call.limits (s.glance none) := by
  cases phase : s.call.phase with
  | launching | finished _ | aborted _ =>
    refine ⟨0, Nat.zero_le _, ?_⟩
    simp [phase, CallPhase.look, CallPhase.step, CallPhase.lookOn, CallPhase.isLooking]
  | killing f =>
    refine ⟨1, by decide, ?_⟩
    simp [apply, turn, phase, phase_step, CallPhase.look, CallPhase.step, CallPhase.lookOn,
      CallPhase.isLooking]
  | _ =>
    have hturn : s.turn none = s.step none := by simp [turn, phase]
    obtain ⟨turns, few, h⟩ := (s.step none).exists_turns_of_lookOn 2
    refine ⟨turns + 1, Nat.succ_le_succ few, ?_⟩
    rw [List.replicate_succ, run_cons, apply, hturn, h, glance_step (by simp [phase]), phase_step,
      limits_step, CallPhase.look, phase]

end CallScene

end InspectionHost
