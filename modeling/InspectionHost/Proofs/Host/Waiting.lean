import InspectionHost.Host.Calls
import InspectionHost.Proofs.Host.Frame

/-!
# Waits of a host

The clock of a host goes on in ticks, and nothing else moves it. A wait is over in the first tick
that brings what is waited for, so a longer one brings the same. A wait that does not bring it has
taken all its ticks.

How patient a host is plays no part in what happens on it meanwhile. So a run can be looked at for
every patience at once: either it has one result for all that are large enough, or it waits in vain
however long it waits.

## Main definitions

* `Host.withPatience` : a host with another patience.
* `Host.Waited` : a wait has lasted as long as the host is patient.
* `Host.Runs`, `Host.Busy` : what a wait is in vain for.
* `Host.Settles`, `Host.Lasts` : a run has a result when it waits long enough, or never.

## Main results

* `Host.now_tick` : how far the clock goes on in a tick.
* `Host.done_or_now_waitUntil` : a wait brings what is waited for, or takes all its ticks.
* `Host.waitUntil_of_le` : a longer wait brings the same.
* `Host.withPatience_waitUntil` : patience plays no part in what happens.
-/

namespace InspectionHost

/-! ### Clocks -/

namespace Machine

theorem now_perform (m : Machine) (p : Process) (s : Step) : (m.perform p s).1.now = m.now := by
  cases s <;> rfl

theorem now_run (fuel : Nat) (m : Machine) (p : Process) : (m.run fuel p).1.now = m.now := by
  induction fuel generalizing m p with
  | zero => rfl
  | succ fuel ih =>
    rw [run]
    split
    · rfl
    · next s rest _ _ =>
      split
      · rfl
      · exact (ih _ _).trans (now_perform m { p with steps := rest } s)
    · rfl

theorem now_advance (m : Machine) (p : Process) : (m.advance p).1.now = m.now := by
  unfold advance
  split
  · split
    · cases p.name <;> exact now_run _ _ _
    · rfl
  · exact now_run _ _ _
  · rfl
  · rfl

theorem now_advanceAll (ps : List Process) (m : Machine) : (m.advanceAll ps).1.now = m.now := by
  induction ps generalizing m with
  | nil => rfl
  | cons p rest ih => exact (ih _).trans (now_advance m p)

theorem length_advanceAll (ps : List Process) (m : Machine) :
    (m.advanceAll ps).2.length = ps.length := by
  induction ps generalizing m with
  | nil => rfl
  | cons p rest ih => rw [advanceAll, List.length_cons, List.length_cons, ih]

/-- A tick moves the clock by its length. -/
theorem now_tick (m : Machine) : m.tick.now = m.now + tickLength :=
  now_advanceAll m.processes _

theorem length_processes_tick (m : Machine) : m.tick.processes.length = m.processes.length :=
  length_advanceAll m.processes _

end Machine

namespace Host

variable {h k : Host} {done : Host → Bool}

@[simp] theorem machine_deliverClient (h : Host) (sink : Sink) (ds : List Diagnostic) :
    (h.deliverClient sink ds).machine = h.machine := by
  cases sink <;> rfl

@[simp] theorem machine_deliverServer (h : Host) (sink : Sink) (ds : List Diagnostic) :
    (h.deliverServer sink ds).machine = h.machine := by
  cases sink <;> rfl

@[simp] theorem deliverClient_nil (h : Host) (sink : Sink) : h.deliverClient sink [] = h := by
  cases sink <;> rfl

/-- A server that is launched is the next process. -/
theorem exists_spawn_of_launchServer {s : Supervisor} {process : Nat} {machine : Machine}
    (launched : h.launchServer s = .ok (process, machine)) :
    process = h.machine.processes.length ∧ ∃ path image,
      (s.launch path).start h.machine.files h.directory h.environment = .ok image ∧
      machine = (h.machine.spawn image true).2 := by
  cases found : lookUpProgram h.machine.files h.directory h.environment s.program with
  | none => simp [launchServer, found] at launched
  | some path =>
    cases started : (s.launch path).start h.machine.files h.directory h.environment with
    | error error => simp [launchServer, found, started] at launched
    | ok image =>
      simp only [launchServer, found, started] at launched
      obtain ⟨rfl, rfl⟩ := Prod.mk.inj (Except.ok.inj launched)
      exact ⟨rfl, path, image, started, rfl⟩

theorem machine_supervise (h : Host) : h.supervise.machine = h.machine ∨
    ∃ image, h.supervise.machine = (h.machine.spawn image true).2 := by
  unfold supervise
  split
  · split
    · exact .inl (machine_deliverServer ..)
    · next process machine launched =>
      obtain ⟨-, -, image, -, rfl⟩ := exists_spawn_of_launchServer launched
      exact .inr ⟨image, rfl⟩
  · split
    · exact .inl rfl
    · dsimp only
      split
      · exact .inl (machine_deliverServer (h.record _) ..)
      · exact .inl (machine_deliverServer ..)
  · exact .inl rfl

theorem now_supervise (h : Host) : h.supervise.machine.now = h.machine.now := by
  rcases h.machine_supervise with same | ⟨_, spawned⟩
  · rw [same]
  · rw [spawned]
    rfl

/-- A tick moves the clock by its length. -/
theorem now_tick (h : Host) : h.tick.machine.now = h.machine.now + Machine.tickLength := by
  obtain ⟨k, beside, htick⟩ := h.exists_beside_tick
  rw [htick, now_supervise, beside.now, Machine.now_tick]

/-! ### Waits -/

theorem waitUntil_of_done (there : done h = true) (ticks : Nat) : h.waitUntil done ticks = h := by
  cases ticks with
  | zero => rfl
  | succ ticks => rw [waitUntil, there, if_pos rfl]

/-- A wait brings what is waited for, or takes all its ticks. -/
theorem done_or_now_waitUntil (done : Host → Bool) (ticks : Nat) (h : Host) :
    done (h.waitUntil done ticks) = true ∨
      (h.waitUntil done ticks).machine.now = h.machine.now + ticks * Machine.tickLength := by
  induction ticks generalizing h with
  | zero => exact .inr (by simp [waitUntil])
  | succ ticks ih =>
    rw [waitUntil]
    split
    · next there => exact .inl there
    · refine (ih h.tick).imp_right fun passed => ?_
      rw [passed, now_tick, Nat.add_assoc, Nat.add_comm Machine.tickLength, ← Nat.succ_mul]

theorem now_le_now_waitUntil (done : Host → Bool) (ticks : Nat) (h : Host) :
    h.machine.now ≤ (h.waitUntil done ticks).machine.now :=
  waitUntil_induction (motive := fun k => h.machine.now ≤ k.machine.now)
    (fun k later _ => by rw [now_tick]; exact Nat.le_add_right_of_le later) ticks h (Nat.le_refl _)

/-- A longer wait brings the same. -/
theorem waitUntil_of_le {few many : Nat} (le : few ≤ many)
    (there : done (h.waitUntil done few) = true) :
    h.waitUntil done many = h.waitUntil done few := by
  induction few generalizing h many with
  | zero => exact waitUntil_of_done there many
  | succ few ih =>
    obtain ⟨more, rfl⟩ := Nat.exists_eq_add_of_le le
    rw [Nat.add_right_comm, waitUntil, waitUntil]
    rw [waitUntil] at there
    split
    · rfl
    · next going =>
      rw [if_neg going] at there
      exact ih (Nat.le_add_right few more) there

/-! ### Patience -/

/-- A host with another patience. -/
def withPatience (h : Host) (n : Nat) : Host :=
  { h with patience := n }

variable (n : Nat)

theorem withPatience_deliverClient (h : Host) (sink : Sink) (ds : List Diagnostic) :
    (h.withPatience n).deliverClient sink ds = (h.deliverClient sink ds).withPatience n := by
  cases sink <;> rfl

theorem withPatience_deliverServer (h : Host) (sink : Sink) (ds : List Diagnostic) :
    (h.withPatience n).deliverServer sink ds = (h.deliverServer sink ds).withPatience n := by
  cases sink <;> rfl

theorem withPatience_stopClient (h : Host) (c : ActiveCall) :
    (h.withPatience n).stopClient c =
      ((h.stopClient c).1.withPatience n, (h.stopClient c).2) := by
  unfold stopClient
  split <;> rfl

theorem withPatience_concludeCall (h : Host) (c : ActiveCall) :
    (h.withPatience n).concludeCall c =
      ((h.concludeCall c).1.withPatience n, (h.concludeCall c).2) := by
  simp only [concludeCall, withPatience_stopClient, withPatience_deliverClient]

theorem withPatience_launchClient (h : Host) (client : Client) (command : Command) :
    (h.withPatience n).launchClient client command = ((h.launchClient client command).1,
      (h.launchClient client command).2.1, (h.launchClient client command).2.2.withPatience n) := by
  cases found : lookUpProgram h.machine.files h.directory h.environment client.options.program with
  | none => simp only [launchClient, withPatience, found]
  | some path =>
    cases started : (client.launch path command).start h.machine.files h.directory h.environment <;>
      simp only [launchClient, withPatience, found, started]

theorem withPatience_beginCall (h : Host) (c : ActiveCall) :
    (h.withPatience n).beginCall c = ((h.beginCall c).1.withPatience n, (h.beginCall c).2) := by
  simp only [beginCall, withPatience_launchClient]
  exact withPatience_concludeCall n _ _

theorem withPatience_advanceCall (h : Host) (c : ActiveCall) :
    (h.withPatience n).advanceCall c =
      ((h.advanceCall c).1.withPatience n, (h.advanceCall c).2) := by
  unfold advanceCall
  split
  · exact withPatience_beginCall n h c
  · exact withPatience_concludeCall n h _

theorem withPatience_advanceCalls (cs : List ActiveCall) (h : Host) :
    (h.withPatience n).advanceCalls cs =
      ((h.advanceCalls cs).1.withPatience n, (h.advanceCalls cs).2) := by
  induction cs generalizing h with
  | nil => rfl
  | cons c rest ih => simp only [advanceCalls, withPatience_advanceCall, ih]

theorem withPatience_cancels (alarms : List (Nat × Nat)) (h : Host) :
    alarms.foldl (fun h alarm => h.cancel alarm.2) (h.withPatience n) =
      (alarms.foldl (fun h alarm => h.cancel alarm.2) h).withPatience n := by
  induction alarms generalizing h with
  | nil => rfl
  | cons alarm rest ih => exact ih (h.cancel alarm.2)

theorem withPatience_ringAlarms (h : Host) :
    (h.withPatience n).ringAlarms = h.ringAlarms.withPatience n := by
  simp only [ringAlarms]
  rw [show (h.withPatience n).alarms = h.alarms from rfl,
    show (h.withPatience n).machine = h.machine from rfl, withPatience_cancels]
  rfl

theorem withPatience_endSupervision (h : Host) (reported : Reported ServerExit) :
    (h.withPatience n).endSupervision reported =
      (h.endSupervision reported).withPatience n := by
  simp only [endSupervision]
  rw [show (h.withPatience n).supervisor = h.supervisor from rfl, withPatience_deliverServer]
  rfl

theorem withPatience_supervise (h : Host) :
    (h.withPatience n).supervise = h.supervise.withPatience n := by
  cases supervision : h.supervisor.supervision with
  | finished => simp only [supervise, withPatience, supervision]
  | launching =>
    cases launched : h.launchServer h.supervisor with
    | error failure =>
      have launched' : (h.withPatience n).launchServer h.supervisor = .error failure := launched
      simp only [supervise, show (h.withPatience n).supervisor = h.supervisor from rfl,
        supervision, launched, launched']
      exact withPatience_endSupervision n h _
    | ok spawned =>
      have launched' : (h.withPatience n).launchServer h.supervisor = .ok spawned := launched
      simp only [supervise, show (h.withPatience n).supervisor = h.supervisor from rfl,
        supervision, launched, launched']
      rfl
  | watching process =>
    cases status : h.machine.status? process with
    | none => simp only [supervise, withPatience, supervision, status]
    | some status' =>
      simp only [supervise, show (h.withPatience n).supervisor = h.supervisor from rfl,
        show (h.withPatience n).machine = h.machine from rfl, supervision, status]
      split
      · exact withPatience_endSupervision n (h.record _) _
      · exact withPatience_endSupervision n h _

theorem withPatience_tick (h : Host) : (h.withPatience n).tick = h.tick.withPatience n := by
  let rung (h : Host) : Host := { h with machine := h.machine.tick }.ringAlarms
  let called (h : Host) : Host :=
    { (h.advanceCalls h.calls).1 with calls := (h.advanceCalls h.calls).2 }
  have htick (h : Host) : h.tick = (called (rung h)).supervise := rfl
  have hrung : rung (h.withPatience n) = (rung h).withPatience n :=
    withPatience_ringAlarms n { h with machine := h.machine.tick }
  have hcalled (h : Host) : called (h.withPatience n) = (called h).withPatience n := by
    have advanced := withPatience_advanceCalls n h.calls h
    simp only [called, show (h.withPatience n).calls = h.calls from rfl, advanced]
    rfl
  rw [htick, htick, hrung, hcalled, withPatience_supervise]

/-- Patience plays no part in what happens while a host waits. -/
theorem withPatience_waitUntil (blind : ∀ k : Host, done (k.withPatience n) = done k) (ticks : Nat)
    (h : Host) : (h.withPatience n).waitUntil done ticks =
      (h.waitUntil done ticks).withPatience n := by
  induction ticks generalizing h with
  | zero => rfl
  | succ ticks ih =>
    rw [waitUntil, waitUntil, blind]
    split
    · rfl
    · rw [withPatience_tick, ih]

theorem patience_waitUntil (blind : ∀ n, ∀ k : Host, done (k.withPatience n) = done k) (ticks : Nat)
    (h : Host) : (h.waitUntil done ticks).patience = h.patience := by
  have same := congrArg Host.patience (withPatience_waitUntil h.patience (blind h.patience) ticks h)
  exact same

/-! ### Runs for every patience -/

/-- From the first host to the second as much time has passed as the first waits for what has no
time of its own. -/
def Waited (h k : Host) : Prop :=
  h.machine.now + h.patience * Machine.tickLength ≤ k.machine.now

/-- A process of a host has not ended. -/
structure Runs (h : Host) (process : Nat) : Prop where
  there : process < h.machine.processes.length
  status : h.machine.status? process = none

/-- More may be written to the output of a process: it has not ended, or somebody holds its output
open. -/
structure Busy (h : Host) (process : Nat) : Prop where
  there : process < h.machine.processes.length
  output : h.machine.output? process = none

/-- A run has one result for every patience that is large enough. -/
def Settles {α : Type} (run : Nat → Except Abort α × Host) : Prop :=
  ∃ (least : Nat) (result : Except Abort α) (k : Host), result ≠ .error .unending ∧
    ∀ n, least ≤ n → run n = (result, k.withPatience n)

/-- A run waits in vain however large the patience is, and leaves a host with a property. -/
def Lasts {α : Type} (run : Nat → Except Abort α × Host) (P : Host → Prop) : Prop :=
  ∃ least, ∀ n, least ≤ n → ∃ k, run n = (.error .unending, k) ∧ P k

theorem Runs.busy {process : Nat} (runs : h.Runs process) : h.Busy process := by
  refine ⟨runs.there, ?_⟩
  have status := runs.status
  simp only [Machine.status?, Machine.output?, List.getElem?_eq_getElem runs.there,
    Option.bind_some] at status ⊢
  simp [Process.output?, status]

section Runs

variable {α : Type} {run other : Nat → Except Abort α × Host} {P Q : Host → Prop} {n : Nat}

/-- What counts is how a run goes with much patience. -/
theorem Settles.congr (settles : Settles run) (same : ∀ m, n ≤ m → other m = run m) :
    Settles other := by
  obtain ⟨least, result, k, ends, settled⟩ := settles
  refine ⟨max least n, result, k, ends, fun m hm => ?_⟩
  rw [same m (by omega), settled m (by omega)]

theorem Lasts.congr (lasts : Lasts run P) (same : ∀ m, n ≤ m → other m = run m) :
    Lasts other P := by
  obtain ⟨least, lasting⟩ := lasts
  refine ⟨max least n, fun m hm => ?_⟩
  rw [same m (by omega)]
  exact lasting m (by omega)

theorem Lasts.mono (lasts : Lasts run P) (imp : ∀ k, P k → Q k) : Lasts run Q := by
  obtain ⟨least, lasting⟩ := lasts
  refine ⟨least, fun m hm => ?_⟩
  obtain ⟨k, hk, property⟩ := lasting m hm
  exact ⟨k, hk, imp k property⟩

end Runs

end Host

end InspectionHost
