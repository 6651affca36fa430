import InspectionHost.Proofs.Server.Report

/-!
# Starts of a supervisor

Whoever owns a supervisor may start it any number of times, look at its handle and let observers
ask the handle, while threads that were started go on, and may drop it in the end. A start first
looks whether there is a handle. Then it needs a thread, which the system may refuse. A start that
has its thread puts a new handle in place, and with it a session of its own begins.

Nothing in a scene says that there is one session only: it holds a list of them, and a start that
had its thread would drop the handle of the session before. That this never happens is the
invariant: once there is a session, its handle stays until the supervisor is dropped, and its thread
has at most one launch left.

## Main definitions

* `Supervisor.startOn` : a start whose thread may be refused.
* `SupervisorScene` : a supervisor with the sessions that it has started.
* `SupervisorScene.step?`, `SupervisorScene.run?` : the scene behind an event, and behind events.
* `SupervisorScene.Started` : the invariant.

## Main results

* `ServerScene.launchesLeft_step` : every launch of a thread uses up one that was left.
* `SupervisorScene.Started.step`, `SupervisorScene.started_run` : the invariant holds.
-/

namespace InspectionHost

/-! ### A start that may have no thread -/

namespace Supervisor

/-- Start the server on a thread of its own, if the system grants one. -/
def startOn (s : Supervisor) (thread : Except IoError Unit) : Except HostError Supervisor := do
  let started ← s.start
  thread.mapError .supervisorThread
  return started

variable {s : Supervisor}

theorem startOn_ok (s : Supervisor) : s.startOn (.ok ()) = s.start := by
  unfold startOn
  cases s.start <;> rfl

theorem startOn_of_handle (handle : s.handle.isSome) (thread : Except IoError Unit) :
    s.startOn thread = .error .serverAlreadyStarted := by
  simp [startOn, start, handle, bind, Except.bind]

theorem startOn_of_no_handle (handle : s.handle = none) (thread : Except IoError Unit) :
    s.startOn thread = match thread with
      | .ok () => .ok { s with handle := some .new, supervision := .launching }
      | .error e => .error (.supervisorThread e) := by
  cases thread <;>
    simp [startOn, start, handle, Except.mapError, bind, Except.bind, pure, Except.pure]

end Supervisor

/-! ### What one session does -/

/-- Whether an event is a launch, which may fail. -/
def ServerEvent.isSpawn {n : Nat} : ServerEvent n → Bool
  | spawn _ => true
  | _ => false

namespace ServerScene

variable {n : Nat} {s t : ServerScene n} {event : ServerEvent n}

/-- A session that begins with a supervisor. -/
def begin (supervisor : Supervisor) : ServerScene n where
  supervisor := supervisor
  thread := .resolving
  reports := []
  observers := fun _ => .idle
  told := []

/-- How many launches the thread has left. -/
def launchesLeft (s : ServerScene n) : Nat :=
  match s.thread with
  | .resolving | .launching _ => 1
  | _ => 0

/-- Every launch of a thread uses up one that was left. -/
theorem launchesLeft_step (moved : s.step? event = some t) :
    t.launchesLeft + (if event.isSpawn then 1 else 0) ≤ s.launchesLeft := by
  cases event with
  | resolve path =>
    obtain ⟨thread, rfl⟩ := resolve?_eq_some.1 moved
    cases path <;> simp [launchesLeft, thread, ServerEvent.isSpawn]
  | spawn launched =>
    obtain ⟨⟨path, thread⟩, rfl⟩ := spawn?_eq_some.1 moved
    cases launched <;> simp [launchesLeft, thread, ServerEvent.isSpawn]
  | awaited seen =>
    obtain ⟨thread, rfl⟩ := awaited?_eq_some.1 moved
    simp [launchesLeft, thread, ServerEvent.isSpawn]
  | report =>
    obtain ⟨session, thread, rfl⟩ := report?_eq_some.1 moved
    cases s.result session <;> simp [launchesLeft, thread, ServerEvent.isSpawn]
  | send =>
    obtain ⟨session, exit, thread, -, -, rfl⟩ := send?_eq_some.1 moved
    simp [launchesLeft, thread, ServerEvent.isSpawn]
  | finish =>
    obtain ⟨session, thread, rfl⟩ := finish?_eq_some.1 moved
    simp [launchesLeft, thread, ServerEvent.isSpawn]
  | ask i q | receive i expired | settle i | drop =>
    obtain ⟨thread, -⟩ := thread_of_isObserver moved rfl
    simp [launchesLeft, thread, ServerEvent.isSpawn]

/-- A handle stays until it is dropped. -/
theorem isSome_handle_step (moved : s.step? event = some t) (kept : event ≠ .drop) :
    t.supervisor.handle.isSome = s.supervisor.handle.isSome := by
  cases event with
  | resolve path => rw [(quiet_resolve moved).handle]
  | spawn launched => rw [(quiet_spawn moved).handle]
  | awaited seen => rw [(quiet_awaited moved).handle]
  | report => rw [(quiet_report moved).handle]
  | send =>
    obtain ⟨_, _, -, -, -, rfl⟩ := send?_eq_some.1 moved
    exact Option.isSome_map
  | finish =>
    obtain ⟨_, -, rfl⟩ := finish?_eq_some.1 moved
    exact Option.isSome_map
  | ask i q =>
    obtain ⟨-, k, handle, rfl⟩ := ask?_eq_some.1 moved
    cases k.cell <;> rfl
  | receive i expired =>
    obtain ⟨_, _, -, handle, ⟨_, -, rfl⟩ | ⟨-, -, rfl⟩ | ⟨-, -, -, rfl⟩⟩ :=
      receive?_eq_some.1 moved
    · rw [handle]; rfl
    · rfl
    · rfl
  | settle i =>
    obtain ⟨_, _, _, -, handle, rfl⟩ := settle?_eq_some.1 moved
    rw [handle]
    rfl
  | drop => exact (kept rfl).elim

/-- The session without its handle, which another one has replaced. -/
def withoutHandle (s : ServerScene n) : ServerScene n :=
  { s with supervisor := { s.supervisor with handle := none } }

end ServerScene

/-! ### The scene -/

/-- A supervisor with the sessions that it has started. -/
structure SupervisorScene (n : Nat) where
  /-- The supervisor as it was made. -/
  unstarted : Supervisor
  /-- The sessions of the starts that had their thread, the last first. Each has a thread and
  observers of its own. -/
  sessions : List (ServerScene n)
  /-- Whether the supervisor is dropped, with its handle. -/
  dropped : Bool

/-- An event of a supervisor with its sessions. -/
inductive SupervisorEvent (n : Nat) where
  /-- The supervisor is started, and the system grants a thread or refuses one. -/
  | start (thread : Except IoError Unit)
  /-- Something happens in a session. -/
  | session (number : Nat) (event : ServerEvent n)
  /-- The supervisor is dropped. -/
  | drop

namespace SupervisorEvent

variable {n : Nat}

/-- Whether an event is a start for which there is a thread. -/
def isGranted : SupervisorEvent n → Bool
  | start (.ok ()) => true
  | _ => false

/-- Whether an event is a launch of the server. -/
def isSpawn : SupervisorEvent n → Bool
  | session _ event => event.isSpawn
  | start _ | drop => false

end SupervisorEvent

namespace SupervisorScene

variable {n : Nat}

/-- A supervisor that has not been started. -/
def new (program : String) (directory : Option String) (sink : Sink) (n : Nat) :
    SupervisorScene n :=
  ⟨.new program directory sink, [], false⟩

/-- The supervisor as its owner finds it. -/
def supervisor (s : SupervisorScene n) : Supervisor :=
  match s.sessions with
  | [] => s.unstarted
  | session :: _ => session.supervisor

/-- The supervisor is started. A start that is refused changes nothing. -/
def start? (s : SupervisorScene n) (thread : Except IoError Unit) : Option (SupervisorScene n) :=
  if s.dropped then none
  else
    some (match s.supervisor.startOn thread with
      | .ok started =>
        { s with sessions := .begin started :: s.sessions.map ServerScene.withoutHandle }
      | .error _ => s)

/-- Something happens in a session. Its handle is not dropped alone. -/
def session? (s : SupervisorScene n) (number : Nat) (event : ServerEvent n) :
    Option (SupervisorScene n) :=
  match event with
  | .drop => none
  | event =>
    s.sessions[number]?.bind fun session =>
      (session.step? event).map fun next => { s with sessions := s.sessions.set number next }

/-- The supervisor is dropped when nobody is asking its handle. Its threads go on. -/
def drop? (s : SupervisorScene n) : Option (SupervisorScene n) :=
  if s.dropped then none
  else
    match s.sessions with
    | [] => some { s with dropped := true }
    | session :: rest =>
      (session.step? .drop).map fun next => { s with sessions := next :: rest, dropped := true }

/-- The scene behind an event, if it can happen. -/
def step? (s : SupervisorScene n) : SupervisorEvent n → Option (SupervisorScene n)
  | .start thread => s.start? thread
  | .session number event => s.session? number event
  | .drop => s.drop?

/-- The scene behind events, if they can happen one after the other. -/
def run? (s : SupervisorScene n) (events : List (SupervisorEvent n)) :
    Option (SupervisorScene n) :=
  events.foldlM step? s

variable {s t : SupervisorScene n} {event : SupervisorEvent n} {granted : Bool} {spawns : Nat}

theorem session?_eq_some {number : Nat} {event : ServerEvent n} : s.session? number event = some t ↔
    event ≠ .drop ∧ ∃ session next, s.sessions[number]? = some session ∧
      session.step? event = some next ∧ t = { s with sessions := s.sessions.set number next } := by
  cases event <;> simp [session?, eq_comm (a := t), Option.bind_eq_some_iff]

/-! ### One session at most -/

/-- Before a start has had its thread there is no session. Behind it there is one, which keeps its
handle as long as the supervisor is there, and whose launches count. -/
inductive Started (s : SupervisorScene n) : Bool → Nat → Prop where
  | before (sessions : s.sessions = []) (handle : s.unstarted.handle = none) : Started s false 0
  | behind {spawns : Nat} (session : ServerScene n) (sessions : s.sessions = [session])
      (handle : s.dropped = false → session.supervisor.handle.isSome)
      (launches : spawns + session.launchesLeft ≤ 1) : Started s true spawns

theorem started_new (program : String) (directory : Option String) (sink : Sink) :
    (new program directory sink n).Started false 0 :=
  .before rfl rfl

theorem Started.spawns_le (started : s.Started granted spawns) : spawns ≤ 1 := by
  cases started with
  | before => exact Nat.zero_le 1
  | behind _ _ _ launches => exact Nat.le_of_add_right_le launches

theorem Started.no_handle (started : s.Started false spawns) : s.supervisor.handle = none := by
  cases started with
  | before sessions handle => simpa [supervisor, sessions] using handle

theorem Started.handle (started : s.Started true spawns) (live : s.dropped = false) :
    s.supervisor.handle.isSome := by
  cases started with
  | behind session sessions handle => simpa [supervisor, sessions] using handle live

/-- The first start that has its thread begins a session, and no other one does anything. -/
theorem Started.start {thread : Except IoError Unit} (started : s.Started granted spawns)
    (moved : s.start? thread = some t) :
    t.Started (granted || (SupervisorEvent.start (n := n) thread).isGranted) spawns := by
  obtain ⟨live, moved⟩ := Option.ite_none_left_eq_some.1 moved
  have live : s.dropped = false := Bool.not_eq_true _ ▸ live
  cases granted with
  | true =>
    rw [Supervisor.startOn_of_handle (started.handle live)] at moved
    obtain rfl := Option.some.inj moved
    exact started
  | false =>
    rw [Supervisor.startOn_of_no_handle started.no_handle] at moved
    cases thread with
    | error e =>
      obtain rfl := Option.some.inj moved
      exact started
    | ok _ =>
      obtain rfl := Option.some.inj moved
      cases started with
      | before sessions handle =>
        have only : (s.sessions.map ServerScene.withoutHandle) = [] := by rw [sessions]; rfl
        exact .behind _ (congrArg (List.cons _) only) (fun _ => rfl) (Nat.le_refl 1)

theorem Started.session {number : Nat} {event : ServerEvent n} (started : s.Started granted spawns)
    (moved : s.session? number event = some t) :
    t.Started granted (spawns + if event.isSpawn then 1 else 0) := by
  obtain ⟨kept, session, next, there, hstep, rfl⟩ := session?_eq_some.1 moved
  have left := ServerScene.launchesLeft_step hstep
  cases started with
  | before sessions => simp [sessions] at there
  | behind only sessions handle launches =>
    rw [sessions, List.getElem?_singleton] at there
    obtain ⟨rfl, same⟩ := Option.ite_none_right_eq_some.1 there
    obtain rfl := Option.some.inj same
    refine .behind next (by simp [sessions]) (fun live => ?_) (by omega)
    rw [ServerScene.isSome_handle_step hstep kept]
    exact handle live

theorem Started.drop (started : s.Started granted spawns) (moved : s.drop? = some t) :
    t.Started granted spawns := by
  obtain ⟨-, moved⟩ := Option.ite_none_left_eq_some.1 moved
  cases started with
  | before sessions handle =>
    rw [sessions] at moved
    obtain rfl := Option.some.inj moved
    exact .before rfl handle
  | behind session sessions handle launches =>
    rw [sessions] at moved
    obtain ⟨next, hstep, rfl⟩ := Option.map_eq_some_iff.1 moved
    have left := ServerScene.launchesLeft_step hstep
    exact .behind next rfl nofun (by omega)

/-- The invariant holds behind every event. -/
theorem Started.step (started : s.Started granted spawns) (moved : s.step? event = some t) :
    t.Started (granted || event.isGranted) (spawns + if event.isSpawn then 1 else 0) := by
  cases event with
  | start thread => exact started.start moved
  | session number event =>
    have same : (granted || (SupervisorEvent.session number event).isGranted) = granted :=
      Bool.or_false granted
    rw [same]
    exact started.session moved
  | drop =>
    have same : (granted || (SupervisorEvent.drop (n := n)).isGranted) = granted :=
      Bool.or_false granted
    rw [same]
    exact started.drop moved

/-- The invariant holds behind events. -/
theorem started_run {events : List (SupervisorEvent n)} (started : s.Started granted spawns)
    (moved : s.run? events = some t) :
    t.Started (granted || events.any SupervisorEvent.isGranted)
      (spawns + events.countP SupervisorEvent.isSpawn) := by
  induction events generalizing s granted spawns with
  | nil =>
    obtain rfl := Option.some.inj moved
    rwa [List.any_nil, Bool.or_false]
  | cons event rest ih =>
    obtain ⟨next, hstep, hrest⟩ := Option.bind_eq_some_iff.1 moved
    have later := ih (started.step hstep) hrest
    have count : spawns + (event :: rest).countP SupervisorEvent.isSpawn =
        (spawns + if event.isSpawn then 1 else 0) + rest.countP SupervisorEvent.isSpawn := by
      rw [List.countP_cons]
      omega
    rwa [List.any_cons, ← Bool.or_assoc, count]

/-- A start that is refused might as well not have been. -/
theorem run?_of_refused {thread : Except IoError Unit} {e : HostError} (live : s.dropped = false)
    (refused : s.supervisor.startOn thread = .error e) (later : List (SupervisorEvent n)) :
    s.run? (.start thread :: later) = s.run? later := by
  have hstart : s.step? (.start thread) = some s := by
    simp [step?, start?, live, refused]
  rw [run?, List.foldlM_cons, hstart]
  rfl

end SupervisorScene

end InspectionHost
