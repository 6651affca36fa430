import InspectionHost.Proofs.Host.Commands
import InspectionHost.Proofs.Server.Starts

/-!
# One server for one supervisor

On a host, the owner of a supervisor starts it, asks its handle, waits and calls clients, while the
thread of the supervisor goes on in every tick. However often the supervisor is started, one server
is launched at most. The same holds when the steps of the thread and of all observers come in any
order, and when the system refuses threads.

## Main definitions

* `ServerOperation` : what the owner of a supervisor does.
* `Host.operate` : the host behind an operation.
* `Host.HasStarted` : the invariant of a host.

## Main results

* `Host.HasStarted.operate`, `Host.hasStarted_foldl` : the invariant holds behind operations.
* `at_most_one_server` : one server for one supervisor.
-/

namespace InspectionHost

/-- What the owner of a supervisor does. -/
inductive ServerOperation where
  | start
  | tryExit
  | state
  /-- Wait for the end of the session, for at most so many ticks. -/
  | wait (ticks : Nat)
  /-- Let time pass. -/
  | pass (ticks : Nat)
  /-- Ask a client. -/
  | ask (f : Front) (command : Command)

/-- Whether an operation is a start. -/
def ServerOperation.isStart : ServerOperation → Bool
  | start => true
  | tryExit | state | wait _ | pass _ | ask _ _ => false

namespace Host

/-- The host behind an operation. A start that is refused changes nothing. -/
def operate (h : Host) : ServerOperation → Host
  | .start =>
    match h.startServer with
    | .ok k => k
    | .error _ => h
  | .tryExit => h.tryExit.2
  | .state => h.serverState.2
  | .wait ticks => (h.waitExitFor ticks).2
  | .pass ticks => h.pass ticks
  | .ask f command => (h.ask f command).2

variable {h : Host} {started : Bool}

/-! ### Handles stay -/

@[simp] theorem supervisor_deliverServer (h : Host) (sink : Sink) (ds : List Diagnostic) :
    (h.deliverServer sink ds).supervisor = h.supervisor := by
  cases sink <;> rfl

theorem isSome_handle_supervise (h : Host) :
    h.supervise.supervisor.handle.isSome = h.supervisor.handle.isSome := by
  have ended (k : Host) (reported : Reported ServerExit) :
      (k.endSupervision reported).supervisor.handle.isSome = k.supervisor.handle.isSome := by
    simp [endSupervision, Supervisor.settle]
  unfold supervise
  split
  · split
    · exact ended h _
    · rfl
  · split
    · rfl
    · dsimp only
      split
      · exact ended (h.record _) _
      · exact ended h _
  · rfl

theorem isSome_handle_tick (h : Host) :
    h.tick.supervisor.handle.isSome = h.supervisor.handle.isSome := by
  obtain ⟨k, beside, htick⟩ := h.exists_beside_tick
  rw [htick, isSome_handle_supervise, beside.supervisor]

theorem isSome_handle_waitUntil (done : Host → Bool) (ticks : Nat) (h : Host) :
    (h.waitUntil done ticks).supervisor.handle.isSome = h.supervisor.handle.isSome :=
  waitUntil_induction (motive := fun k => k.supervisor.handle.isSome = h.supervisor.handle.isSome)
    (fun k same _ => (isSome_handle_tick k).trans same) ticks h rfl

theorem isSome_handle_askHandle {α : Type} (h : Host) (ask : ServerHandle → α × ServerHandle) :
    (h.askHandle ask).2.supervisor.handle.isSome = h.supervisor.handle.isSome := by
  unfold askHandle
  split
  · rfl
  · next there =>
    rw [there]
    rfl

theorem isSome_handle_ask (h : Host) (f : Front) (command : Command) :
    (h.ask f command).2.supervisor.handle.isSome = h.supervisor.handle.isSome := by
  let c : ActiveCall := .new ⟨f.client, command, f.sink, none⟩
  have begun : (h.beginCall c).1.supervisor = h.supervisor := (h.beside_beginCall c).supervisor
  have waited : (h.ask f command).2.supervisor.handle.isSome =
      (h.beginCall c).1.supervisor.handle.isSome := isSome_handle_waitUntil _ _ _
  rw [waited, begun]

/-! ### The invariant -/

/-- There is a handle exactly if the supervisor was started, and before that no server is launched
and behind it one at most. -/
structure HasStarted (started : Bool) (h : Host) : Prop where
  serves : h.Serves (fun _ => True) (if started then 1 else 0)
  handle : h.supervisor.handle.isSome = started

theorem Fresh.hasStarted (fresh : h.Fresh) (silent : h.log = []) {program : String}
    {directory : Option String} {sink : Sink} (made : h.supervisor = .new program directory sink) :
    h.HasStarted false :=
  ⟨fresh.serves silent (by rw [made]; rfl), by rw [made]; rfl⟩

theorem HasStarted.startServer_ok (none_ : h.HasStarted false) :
    ∃ k, h.startServer = .ok k ∧ k.supervisor.handle = some .new := by
  have start : h.supervisor.start =
      .ok { h.supervisor with handle := some .new, supervision := .launching } := by
    rw [← Supervisor.startOn_ok,
      Supervisor.startOn_of_no_handle (by simpa using none_.handle)]
  exact ⟨_, by rw [startServer, start]; rfl, rfl⟩

theorem HasStarted.startServer_error (once : h.HasStarted true) :
    h.startServer = .error .serverAlreadyStarted := by
  have start : h.supervisor.start = .error .serverAlreadyStarted := by
    rw [← Supervisor.startOn_ok, Supervisor.startOn_of_handle once.handle]
  rw [startServer, start]
  rfl

theorem HasStarted.waitUntil (has : h.HasStarted started) (done : Host → Bool) (ticks : Nat) :
    (h.waitUntil done ticks).HasStarted started :=
  ⟨has.serves.waitUntil done ticks, (isSome_handle_waitUntil done ticks h).trans has.handle⟩

theorem HasStarted.askHandle {α : Type} (has : h.HasStarted started)
    (ask : ServerHandle → α × ServerHandle) : (h.askHandle ask).2.HasStarted started :=
  ⟨has.serves.askHandle ask, (isSome_handle_askHandle h ask).trans has.handle⟩

/-- The invariant holds behind every operation. -/
theorem HasStarted.operate (has : h.HasStarted started) (op : ServerOperation) :
    (h.operate op).HasStarted (started || op.isStart) := by
  cases op with
  | start =>
    rw [ServerOperation.isStart, Bool.or_true, Host.operate]
    cases started with
    | true =>
      rw [has.startServer_error]
      exact has
    | false =>
      obtain ⟨k, first, handle⟩ := has.startServer_ok
      rw [first]
      exact ⟨has.serves.startServer first, by rw [handle]; rfl⟩
  | tryExit =>
    rw [ServerOperation.isStart, Bool.or_false]
    exact has.askHandle ServerHandle.tryExit
  | state =>
    rw [ServerOperation.isStart, Bool.or_false]
    exact has.askHandle ServerHandle.state
  | wait ticks =>
    rw [ServerOperation.isStart, Bool.or_false, Host.operate, waitExitFor]
    split
    · exact has
    · exact (has.waitUntil exitKnown ticks).askHandle _
  | pass ticks =>
    rw [ServerOperation.isStart, Bool.or_false]
    exact has.waitUntil (fun _ => false) ticks
  | ask f command =>
    rw [ServerOperation.isStart, Bool.or_false]
    exact ⟨has.serves.ask trivial, (isSome_handle_ask h f command).trans has.handle⟩

/-- The invariant holds behind operations. -/
theorem hasStarted_foldl (has : h.HasStarted started) (ops : List ServerOperation) :
    (ops.foldl operate h).HasStarted (started || ops.any ServerOperation.isStart) := by
  induction ops generalizing h started with
  | nil => simpa using has
  | cons op rest ih =>
    rw [List.any_cons, ← Bool.or_assoc]
    exact ih (has.operate op)

end Host

/-! ### One server -/

/-- **One server for one supervisor.** Let a supervisor be started any number of times, with any
threads granted and refused, and let its threads, the servers and all observers of its handle take
steps in any order, until the supervisor is dropped or longer. Then:

* The server is launched once at most.
* Before a start has had its thread there is no handle. A start without a thread is refused for
  that, and the first one with a thread puts a new handle in place.
* From then on there is a handle, and every start is refused because there has been one, whatever
  has become of the server.
* A start that is refused changes nothing of the scene: what happens behind it could have happened
  without it.

On a host whose calls and waits let the time pass, where threads are always granted, the same holds
behind any operations. -/
theorem at_most_one_server {n : Nat} {program : String} {directory : Option String} {sink : Sink}
    {events : List (SupervisorEvent n)} {s : SupervisorScene n}
    (moved : (SupervisorScene.new program directory sink n).run? events = some s)
    {h : Host} (fresh : h.Fresh) (silent : h.log = [])
    (made : h.supervisor = .new program directory sink) (ops : List ServerOperation) :
    (events.countP SupervisorEvent.isSpawn ≤ 1 ∧
      (events.any SupervisorEvent.isGranted = false →
        s.supervisor.handle = none ∧
        (∀ e, s.supervisor.startOn (.error e) = .error (.supervisorThread e)) ∧
        ∃ first, s.supervisor.startOn (.ok ()) = .ok first ∧ first.handle = some .new) ∧
      (events.any SupervisorEvent.isGranted = true → s.dropped = false →
        s.supervisor.handle.isSome ∧
        ∀ thread, s.supervisor.startOn thread = .error .serverAlreadyStarted) ∧
      ∀ thread e, s.dropped = false → s.supervisor.startOn thread = .error e →
        ∀ later, s.run? (.start thread :: later) = s.run? later) ∧
    let k := ops.foldl Host.operate h
    k.servers.length ≤ 1 ∧
      (ops.any ServerOperation.isStart = false →
        k.supervisor.handle = none ∧
        ∃ first, k.startServer = .ok first ∧ first.supervisor.handle = some .new) ∧
      (ops.any ServerOperation.isStart = true →
        k.supervisor.handle.isSome ∧ k.startServer = .error .serverAlreadyStarted ∧
        k.operate .start = k) := by
  have started := SupervisorScene.started_run
    (SupervisorScene.started_new (n := n) program directory sink) moved
  rw [Bool.false_or, Nat.zero_add] at started
  refine ⟨⟨started.spawns_le, fun none_ => ?_, fun once live => ?_,
    fun thread e live refused => ?_⟩, ?_⟩
  · rw [none_] at started
    have handle := started.no_handle
    refine ⟨handle, fun e => Supervisor.startOn_of_no_handle handle (.error e), ?_⟩
    exact ⟨_, Supervisor.startOn_of_no_handle handle (.ok ()), rfl⟩
  · rw [once] at started
    have handle := started.handle live
    exact ⟨handle, Supervisor.startOn_of_handle handle⟩
  · exact SupervisorScene.run?_of_refused live refused
  · intro k
    have has : k.HasStarted (false || ops.any ServerOperation.isStart) :=
      Host.hasStarted_foldl (fresh.hasStarted silent made) ops
    rw [Bool.false_or] at has
    refine ⟨?_, fun none_ => ?_, fun once => ?_⟩
    · have bound := Nat.le_of_add_right_le has.serves.servers
      split at bound <;> omega
    · rw [none_] at has
      exact ⟨by simpa using has.handle, has.startServer_ok⟩
    · rw [once] at has
      refine ⟨has.handle, has.startServer_error, ?_⟩
      rw [Host.operate, has.startServer_error]

/-- A start without a thread, one whose server cannot be launched, and one more. -/
theorem at_most_one_server_of_refused_launch :
    let events : List (SupervisorEvent 1) :=
      [.start (.error .noEntry), .start (.ok ()), .session 0 (.ask 0 .wait),
        .session 0 (.resolve (some "server")), .session 0 (.spawn (.error .permissionDenied)),
        .start (.ok ())]
    let h : Host := .new (.boot ⟨[]⟩ []) ⟨[]⟩ [] (.new "server" none .log)
    ∃ s, (SupervisorScene.new "server" none .log 1).run? events = some s ∧ h.Fresh ∧
      h.log = [] ∧ h.supervisor = .new "server" none .log ∧
      events.any SupervisorEvent.isGranted = true ∧ s.dropped = false ∧
      s.supervisor.startOn (.ok ()) = .error .serverAlreadyStarted ∧
      (h.operate .start).startServer = .error .serverAlreadyStarted := by
  intro events h
  obtain ⟨s, hs, live⟩ : ∃ s, (SupervisorScene.new "server" none .log 1).run? events = some s ∧
      s.dropped = false := ⟨_, rfl, rfl⟩
  have fresh : h.Fresh := ⟨rfl, rfl⟩
  have one := at_most_one_server hs fresh rfl rfl [.start]
  exact ⟨s, hs, fresh, rfl, rfl, rfl, live, (one.1.2.2.1 rfl live).2 _, (one.2.2.2 rfl).2.1⟩

end InspectionHost
