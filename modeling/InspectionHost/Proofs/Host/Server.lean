import InspectionHost.Host.Front
import InspectionHost.Proofs.Host.Waiting
import InspectionHost.Proofs.Server.Report

/-!
# The server of a command line

A command line that runs the server starts it and waits for its end. The wait is over in the tick
in which the thread of the supervisor ends its session. By then the diagnostic of the session is
where its sink takes it, behind all that was there before. Until then the server runs, from the
first tick on as one process, so only a process that never ends can exhaust every patience.

## Main definitions

* `Host.Saw` : what the host shows of the end of a session.
* `Host.Underway`, `Host.Ended` : the server before and behind the end of its session.
* `Host.Watches` : the process of a server that runs.

## Main results

* `Host.Underway.supervise`, `Host.Underway.waitUntil` : what the supervisor does in a tick, and
  while the exit is waited for.
* `Host.runServer_cases` : how a command line that runs the server ends.
* `Host.settles_or_lasts_runServer` : with enough patience it has one result, or the server runs on.
* `reported_before_told` : who is told of an exit finds the session reported.
-/

namespace InspectionHost

theorem SessionEnd.isServer_of_diagnostic? {e : SessionEnd} {program : String} {d : Diagnostic}
    (h : e.diagnostic? program = some d) : d.kind.isServer = true := by
  cases e with
  | failed failure | unseen error =>
    obtain rfl := Option.some.inj h
    rfl
  | ended status =>
    obtain ⟨-, hd⟩ := Option.ite_none_left_eq_some.1 h
    obtain rfl := Option.some.inj hd
    rfl

namespace Host

variable {h k : Host} {s : Supervisor} {session : SessionEnd} {reports : List Diagnostic}
  {live : Bool}

/-! ### Reports -/

/-- A sink that takes diagnostics of the server takes them behind those before. -/
theorem serverReports_deliverServer (h : Host) {sink : Sink} (listens : sink ≠ .refusing)
    (receiving : sink = .channel → h.serverChannel.receiving = true) {ds : List Diagnostic}
    (servers : ∀ d ∈ ds, d.kind.isServer = true) :
    (h.deliverServer sink ds).serverReports sink = h.serverReports sink ++ ds := by
  cases sink with
  | refusing => contradiction
  | channel => exact h.serverChannel.waiting_foldl_report ds .direct (receiving rfl)
  | log =>
    have log : (h.deliverServer .log ds).log =
        (ds.map fun d => (h.machine.now, LogEvent.diagnostic d)).reverse ++ h.log :=
      List.foldl_flip_cons_eq_append
    have told : ds.filterMap (LogEvent.serverDiagnostic? ∘ .diagnostic) = ds := by
      rw [List.filterMap_congr (g := some), List.filterMap_some]
      intro d hd
      simp [LogEvent.serverDiagnostic?, servers d hd]
    simp only [serverReports, log, List.reverse_append, List.reverse_reverse,
      List.filterMap_append, List.filterMap_map]
    exact congrArg _ told

/-- What the host shows of the end of the session of its server. -/
inductive Saw (h : Host) : SessionEnd → Prop where
  /-- The server cannot be launched. -/
  | failed {failure : Failure} (launch : h.launchServer h.supervisor = .error failure) :
      Saw h (.failed failure)
  /-- The server was started as a process, which has ended. -/
  | ended {time process : Nat} {status : ExitStatus}
      (started : (time, .serverStarted h.supervisor.program process) ∈ h.log)
      (seen : h.machine.status? process = some status) : Saw h (.ended status)

/-- The server of a supervisor is started and the end of its session is not reported, where the
sink has taken some diagnostics before, and may have a receiver. -/
structure Underway (s : Supervisor) (reports : List Diagnostic) (live : Bool) (h : Host) :
    Prop where
  supervisor : ∃ supervision, h.supervisor = { s with handle := some .new, supervision } ∧
    supervision ≠ .finished ∧ ∀ process, supervision = .watching process →
      process < h.machine.processes.length ∧
        ∃ time, (time, .serverStarted s.program process) ∈ h.log
  receiving : h.serverChannel.receiving = live
  reports : h.serverReports s.sink = reports

/-- The session of the server of a supervisor has ended, and its diagnostic is reported. -/
structure Ended (s : Supervisor) (reports : List Diagnostic) (live : Bool) (session : SessionEnd)
    (h : Host) : Prop where
  supervisor : h.supervisor = { s with
    handle := some ⟨⟨some (session.exit s.program), false⟩, none⟩, supervision := .finished }
  saw : h.Saw session
  reports : (s.sink = .channel → live = true) →
    h.serverReports s.sink = reports ++ (session.diagnostic? s.program).toList

theorem Underway.beside (underway : Underway s reports live h) (beside : h.Beside k) :
    Underway s reports live k := by
  obtain ⟨⟨supervision, hsupervisor, going, started⟩, receiving, before⟩ := underway
  refine ⟨⟨supervision, beside.supervisor.trans hsupervisor, going, fun process watching => ?_⟩,
    by rw [beside.serverChannel, receiving], (beside.serverReports s.sink).trans before⟩
  obtain ⟨there, time, logged⟩ := started process watching
  exact ⟨Nat.lt_of_lt_of_le there beside.processes, time, beside.mem_log logged⟩

theorem Underway.exitKnown (underway : Underway s reports live h) : h.exitKnown = false := by
  obtain ⟨supervision, hsupervisor, -⟩ := underway.supervisor
  rw [Host.exitKnown, hsupervisor]
  rfl

theorem Ended.exitKnown (ended : Ended s reports live session h) : h.exitKnown = true := by
  rw [Host.exitKnown, ended.supervisor]
  rfl

theorem serverReports_record (h : Host) {event : LogEvent}
    (silent : event.serverDiagnostic? = none) (sink : Sink) :
    (h.record event).serverReports sink = h.serverReports sink := by
  cases sink with
  | channel | refusing => rfl
  | log =>
    simp [serverReports, record, silent]

theorem serverReports_supervisor (h : Host) (supervisor : Supervisor) (sink : Sink) :
    { h with supervisor }.serverReports sink = h.serverReports sink := by
  cases sink <;> rfl

/-- How the launch of a server goes depends on the machine, the working directory, the environment
and what is launched. -/
theorem launchServer_congr {r : Supervisor} (machine : k.machine = h.machine)
    (directory : k.directory = h.directory) (environment : k.environment = h.environment)
    (program : r.program = s.program) (workingDirectory : r.workingDirectory = s.workingDirectory) :
    k.launchServer r = h.launchServer s := by
  simp only [launchServer, Supervisor.launch, machine, directory, environment, program,
    workingDirectory]

/-- What a host shows of a session, another one shows that has the same system, launches the same
server, and has logged more. -/
theorem Saw.congr (saw : h.Saw session) (machine : k.machine = h.machine)
    (directory : k.directory = h.directory) (environment : k.environment = h.environment)
    (program : k.supervisor.program = h.supervisor.program)
    (workingDirectory : k.supervisor.workingDirectory = h.supervisor.workingDirectory)
    (log : h.log ⊆ k.log) : k.Saw session := by
  cases saw with
  | failed launch =>
    exact .failed <|
      (launchServer_congr machine directory environment program workingDirectory).trans launch
  | ended started seen => exact .ended (program ▸ log started) (machine ▸ seen)

theorem Saw.endSupervision (saw : h.Saw session) (reported : Reported ServerExit) :
    (h.endSupervision reported).Saw session := by
  cases hsink : h.supervisor.sink with
  | channel | refusing =>
    refine saw.congr ?_ ?_ ?_ ?_ ?_ ?_ <;> simp only [Host.endSupervision, hsink] <;>
      first | exact List.Subset.refl _ | rfl
  | log =>
    refine saw.congr ?_ ?_ ?_ ?_ ?_ ?_ <;>
      simp only [Host.endSupervision, hsink, deliverServer, List.foldl_flip_cons_eq_append] <;>
      first | exact List.subset_append_right _ _ | rfl

/-- A session that the host shows is ended: its diagnostic goes to the sink, and its exit to the
mailbox. -/
theorem Underway.ended (underway : Underway s reports live h) (listens : s.sink ≠ .refusing)
    (saw : h.Saw session) :
    Ended s reports live session (h.endSupervision (session.reported h.supervisor)) := by
  obtain ⟨⟨supervision, hsupervisor, -, -⟩, receiving, before⟩ := underway
  have sink : h.supervisor.sink = s.sink := by rw [hsupervisor]
  have program : h.supervisor.program = s.program := by rw [hsupervisor]
  have reported : session.reported h.supervisor =
      ⟨(session.diagnostic? s.program).toList, .ok (session.exit s.program)⟩ := by
    rw [SessionEnd.reported_of_ne_refusing (by rwa [sink]), program]
  have kept : (h.deliverServer s.sink (session.diagnostic? s.program).toList).supervisor =
      h.supervisor := by
    cases s.sink <;> rfl
  have hend : h.endSupervision (session.reported h.supervisor) =
      { h.deliverServer s.sink (session.diagnostic? s.program).toList with
        supervisor := h.supervisor.settle (.ok (session.exit s.program)) } := by
    simp only [reported, endSupervision, sink, kept]
  refine ⟨?_, saw.endSupervision _, fun taken => ?_⟩
  · rw [hend, hsupervisor]
    rfl
  · have servers : ∀ d ∈ (session.diagnostic? s.program).toList, d.kind.isServer = true :=
      fun d hd => SessionEnd.isServer_of_diagnostic? (Option.mem_toList.1 hd)
    have delivered := serverReports_deliverServer h listens
      (fun channel => receiving.trans (taken channel)) servers
    rw [← before, hend, ← delivered]
    cases s.sink <;> rfl

/-- The thread of a supervisor watches the process of a server that runs. -/
structure Watches (h : Host) (process : Nat) : Prop where
  watching : h.supervisor.supervision = .watching process
  runs : h.Runs process

/-- What the supervisor does in a tick: the server is still underway as a process that runs, or the
session has ended and is reported. -/
theorem Underway.supervise (underway : Underway s reports live h)
    (listens : s.sink ≠ .refusing) :
    (Underway s reports live h.supervise ∧ ∃ process, h.supervise.Watches process ∧
      ∀ watched, h.supervisor.supervision = .watching watched → watched = process) ∨
    ∃ session, Ended s reports live session h.supervise := by
  obtain ⟨supervision, hsupervisor, going, started⟩ := underway.supervisor
  have program : h.supervisor.program = s.program := by rw [hsupervisor]
  cases supervision with
  | finished => contradiction
  | launching =>
    have launching : h.supervisor.supervision = .launching := by rw [hsupervisor]
    cases hlaunch : h.launchServer h.supervisor with
    | error failure =>
      right
      have hnext : h.supervise =
          h.endSupervision ((SessionEnd.failed failure).reported h.supervisor) := by
        simp only [Host.supervise, launching, hlaunch]
        rfl
      rw [hnext]
      exact ⟨_, underway.ended listens (.failed hlaunch)⟩
    | ok spawned =>
      left
      obtain ⟨process, machine⟩ := spawned
      obtain ⟨rfl, -, image, -, rfl⟩ := exists_spawn_of_launchServer hlaunch
      have hnext : h.supervise = { ({ h with machine := (h.machine.spawn image true).2 }.record
          (.serverStarted h.supervisor.program h.machine.processes.length)) with
          supervisor := { h.supervisor with
            supervision := .watching h.machine.processes.length } } := by
        simp only [Host.supervise, launching, hlaunch]
      have runs : h.supervise.Runs h.machine.processes.length := by
        rw [hnext]
        exact ⟨by simp [record, Machine.spawn],
          by simp [record, Machine.spawn, Machine.status?, Process.status?]⟩
      refine ⟨⟨⟨.watching h.machine.processes.length, ?_, by simp, ?_⟩, ?_, ?_⟩, _,
        ⟨by rw [hnext], runs⟩, by simp [launching]⟩
      · rw [hnext, hsupervisor]
      · rintro process watching
        obtain rfl := Supervision.watching.inj watching
        refine ⟨runs.there, h.machine.now, ?_⟩
        rw [hnext, program]
        exact List.mem_cons_self
      · rw [hnext]
        exact underway.receiving
      · rw [← underway.reports, hnext]
        exact serverReports_record { h with machine := (h.machine.spawn image true).2 } rfl s.sink
  | watching process =>
    have watching : h.supervisor.supervision = .watching process := by rw [hsupervisor]
    cases hstatus : h.machine.status? process with
    | none =>
      left
      simp only [Host.supervise, watching, hstatus]
      obtain ⟨there, -⟩ := started process rfl
      exact ⟨underway, process, ⟨watching, there, hstatus⟩,
        fun _ watched => by simpa [watching, eq_comm] using watched⟩
    | some status =>
      right
      obtain ⟨-, time, there⟩ := started process rfl
      let told := if status.isSuccess then h.record (.serverEnded h.supervisor.program) else h
      have beside : h.Beside told := by
        unfold told
        split
        · exact ⟨rfl, rfl, ⟨[_], rfl, by simp [LogEvent.serverDiagnostic?]⟩, rfl, Nat.le_refl _⟩
        · exact .refl h
      have machine : told.machine = h.machine := by
        unfold told
        split <;> rfl
      have saw : told.Saw (.ended status) := by
        have logged : (time, .serverStarted told.supervisor.program process) ∈ told.log := by
          rw [beside.supervisor, program]
          exact beside.mem_log there
        exact .ended logged (machine ▸ hstatus)
      have hnext : h.supervise =
          told.endSupervision ((SessionEnd.ended status).reported told.supervisor) := by
        simp only [Host.supervise, watching, hstatus]
        rfl
      rw [hnext]
      exact ⟨_, (underway.beside beside).ended listens saw⟩

/-- A tick is for the supervisor what its thread does in it. -/
theorem Underway.tick (underway : Underway s reports live h) (listens : s.sink ≠ .refusing) :
    (Underway s reports live h.tick ∧ ∃ process, h.tick.Watches process ∧
      ∀ watched, h.supervisor.supervision = .watching watched → watched = process) ∨
    ∃ session, Ended s reports live session h.tick := by
  obtain ⟨k, beside, htick⟩ := h.exists_beside_tick
  have ticked : Underway s reports live { h with machine := h.machine.tick } := by
    obtain ⟨⟨supervision, hsupervisor, going, started⟩, receiving, before⟩ := underway
    refine ⟨⟨supervision, hsupervisor, going, fun process watching => ?_⟩, receiving, before⟩
    rw [Machine.length_processes_tick]
    exact started process watching
  have supervised := (ticked.beside beside).supervise listens
  rw [beside.supervisor] at supervised
  rw [htick]
  exact supervised

/-- A server that runs as a process runs as that process until its session has ended. -/
theorem Underway.waitUntil_of_watches {process : Nat} (underway : Underway s reports live h)
    (watches : h.Watches process) (listens : s.sink ≠ .refusing) (ticks : Nat) :
    (Underway s reports live (h.waitUntil Host.exitKnown ticks) ∧
        (h.waitUntil Host.exitKnown ticks).Watches process) ∨
      ∃ session, Ended s reports live session (h.waitUntil Host.exitKnown ticks) := by
  refine waitUntil_induction (motive := fun k => (Underway s reports live k ∧ k.Watches process) ∨
    ∃ session, Ended s reports live session k) (fun k stands unknown => ?_) ticks h
    (.inl ⟨underway, watches⟩)
  rcases stands with ⟨underway, watches⟩ | ⟨session, ended⟩
  · refine (underway.tick listens).imp_left ?_
    rintro ⟨still, process', watches', same⟩
    obtain rfl := same process watches.watching
    exact ⟨still, watches'⟩
  · simp [ended.exitKnown] at unknown

/-- A wait for the exit ends with a session that has ended, or with a server that is underway: from
the first tick on as one process, which runs. -/
theorem Underway.waitUntil (underway : Underway s reports live h)
    (listens : s.sink ≠ .refusing) : ∃ process, ∀ ticks,
      (Underway s reports live (h.waitUntil Host.exitKnown ticks) ∧
        (0 < ticks → (h.waitUntil Host.exitKnown ticks).Watches process)) ∨
      ∃ session, Ended s reports live session (h.waitUntil Host.exitKnown ticks) := by
  have first (ticks : Nat) : h.waitUntil Host.exitKnown (ticks + 1) =
      h.tick.waitUntil Host.exitKnown ticks := by
    rw [Host.waitUntil, underway.exitKnown]
    rfl
  rcases underway.tick listens with ⟨still, process, watches, -⟩ | ⟨session, ended⟩
  · refine ⟨process, fun ticks => ?_⟩
    cases ticks with
    | zero => exact .inl ⟨underway, fun none_ => absurd none_ (Nat.lt_irrefl 0)⟩
    | succ ticks =>
      rw [first]
      exact (still.waitUntil_of_watches watches listens ticks).imp_left
        (And.imp_right fun watches _ => watches)
  · refine ⟨0, fun ticks => ?_⟩
    cases ticks with
    | zero => exact .inl ⟨underway, fun none_ => absurd none_ (Nat.lt_irrefl 0)⟩
    | succ ticks =>
      rw [first, waitUntil_of_done ended.exitKnown]
      exact .inr ⟨session, ended⟩

/-! ### The command line -/

/-- The host of a command line that runs the server, when the supervisor is started. -/
def withServer (h : Host) (settings : Settings) (sink : Sink) : Host :=
  let s : Supervisor := .new settings.serverProgram settings.workingDirectory sink
  { h.record (.supervisorStarted s.program) with
    supervisor := { s with handle := some .new, supervision := .launching } }

section CommandLine

variable {f : Front} {settings : Settings} {input : List UInt8}

theorem underway_withServer (h : Host) (settings : Settings) (sink : Sink) :
    Underway (.new settings.serverProgram settings.workingDirectory sink) (h.serverReports sink)
      h.serverChannel.receiving (h.withServer settings sink) :=
  ⟨⟨.launching, rfl, nofun, nofun⟩, rfl, serverReports_record h rfl sink⟩

/-- What the handle tells behind the wait is how a command line ends that runs the server. -/
theorem runServer_of_tryExit {answer : Option ServerExit}
    (told : ((h.withServer settings f.sink).waitUntil exitKnown h.patience).tryExit =
      (some answer, k)) :
    h.runServer f settings input = answer.elim (.error .unending, k) fun exit =>
      (.ok ⟨"", 0, if exit.isSuccess then none else some (.serverStopped exit), input⟩, k) := by
  have started : (h.withSupervisor settings f.sink).startServer =
    .ok (h.withServer settings f.sink) := rfl
  have waited : (h.withServer settings f.sink).waitExit = (some answer, k) := told
  cases answer <;> simp only [runServer, started, waited, Option.elim]

theorem Underway.tryExit (underway : Underway s reports live h) :
    ∃ supervisor, h.tryExit = (some none, { h with supervisor }) ∧
      supervisor.supervision = h.supervisor.supervision := by
  obtain ⟨supervision, hsupervisor, -⟩ := underway.supervisor
  simp only [Host.tryExit, askHandle, hsupervisor]
  exact ⟨_, rfl, rfl⟩

theorem Ended.tryExit (ended : Ended s reports live session h) :
    ∃ handle, h.tryExit = (some (some (session.exit s.program)),
      { h with supervisor := { h.supervisor with handle } }) := by
  simp only [Host.tryExit, askHandle, ended.supervisor]
  exact ⟨_, rfl⟩

/-- A command line that runs the server ends when the session of the server has ended, unless the
host is not that patient. It ends well exactly if the server has ended by success, and it ends with
its session reported. -/
theorem runServer_cases (h : Host) (listens : f.sink ≠ .refusing) (settings : Settings)
    (input : List UInt8) :
    (∃ k, h.runServer f settings input = (.error .unending, k) ∧
      k.supervisor.supervision ≠ .finished ∧ h.Waited k) ∨
    ∃ k session, k.Saw session ∧
      h.runServer f settings input = (.ok ⟨"", 0,
        if (session.exit settings.serverProgram).isSuccess then none
        else some (.serverStopped (session.exit settings.serverProgram)), input⟩, k) ∧
      ((f.sink = .channel → h.serverChannel.receiving = true) → k.serverReports f.sink =
        h.serverReports f.sink ++ (session.diagnostic? settings.serverProgram).toList) := by
  let waited := (h.withServer settings f.sink).waitUntil exitKnown h.patience
  obtain ⟨process, cases_⟩ := (h.underway_withServer settings f.sink).waitUntil listens
  rcases cases_ h.patience with ⟨still, -⟩ | ⟨session, ended⟩
  · left
    obtain ⟨supervisor, told, supervision⟩ := still.tryExit
    obtain ⟨_, hsupervisor, going, -⟩ := still.supervisor
    refine ⟨{ waited with supervisor }, runServer_of_tryExit told, ?_, ?_⟩
    · simpa [supervision, hsupervisor] using going
    · have passed := (done_or_now_waitUntil exitKnown h.patience
        (h.withServer settings f.sink)).resolve_left (by simp [still.exitKnown])
      exact Nat.le_of_eq passed.symm
  · right
    obtain ⟨handle, told⟩ := ended.tryExit
    refine ⟨{ waited with supervisor := { waited.supervisor with handle } }, session, ?_,
      runServer_of_tryExit told, fun taken => ?_⟩
    · exact ended.saw.congr rfl rfl rfl rfl rfl (List.Subset.refl _)
    · exact (serverReports_supervisor waited _ f.sink).trans (ended.reports taken)

theorem withPatience_tryExit (n : Nat) (h : Host) :
    (h.withPatience n).tryExit = (h.tryExit.1, h.tryExit.2.withPatience n) := by
  cases handle : h.supervisor.handle <;> simp only [Host.tryExit, askHandle, withPatience, handle]

/-- A command line that runs the server has one result for every patience that is large enough, or
the server is started as a process that never ends. -/
theorem settles_or_lasts_runServer (h : Host) (listens : f.sink ≠ .refusing) (settings : Settings)
    (input : List UInt8) :
    Settles (fun n => (h.withPatience n).runServer f settings input) ∨
      ∃ process, Lasts (fun n => (h.withPatience n).runServer f settings input) fun k =>
        (∃ time, (time, .serverStarted settings.serverProgram process) ∈ k.log) ∧
          k.Runs process := by
  let started := h.withServer settings f.sink
  have patient (n : Nat) : ((h.withPatience n).withServer settings f.sink).waitUntil exitKnown n =
      (started.waitUntil exitKnown n).withPatience n :=
    withPatience_waitUntil n (fun _ => rfl) n started
  obtain ⟨process, cases_⟩ := (h.underway_withServer settings f.sink).waitUntil listens
  by_cases known : ∃ n, exitKnown (started.waitUntil exitKnown n) = true
  · left
    obtain ⟨least, known⟩ := known
    rcases cases_ least with ⟨still, -⟩ | ⟨session, ended⟩
    · simp [started, still.exitKnown] at known
    have told : (started.waitUntil exitKnown least).tryExit.1 =
        some (some (session.exit settings.serverProgram)) := by
      obtain ⟨handle, told⟩ := ended.tryExit
      exact congrArg Prod.fst told
    let error : Option RunError :=
      if (session.exit settings.serverProgram).isSuccess then none
      else some (.serverStopped (session.exit settings.serverProgram))
    refine ⟨least, .ok ⟨"", 0, error, input⟩, (started.waitUntil exitKnown least).tryExit.2,
      by simp, fun n enough => ?_⟩
    have told' : (((h.withPatience n).withServer settings f.sink).waitUntil exitKnown
        (h.withPatience n).patience).tryExit = (some (some (session.exit settings.serverProgram)),
          (started.waitUntil exitKnown least).tryExit.2.withPatience n) := by
      rw [show (h.withPatience n).patience = n from rfl, patient, waitUntil_of_le enough known,
        withPatience_tryExit, told]
    exact runServer_of_tryExit told'
  · right
    refine ⟨process, 1, fun n some_ => ?_⟩
    obtain ⟨still, watches⟩ := (cases_ n).resolve_right fun ⟨session, ended⟩ =>
      known ⟨n, ended.exitKnown⟩
    obtain ⟨supervisor, told, -⟩ := still.tryExit
    obtain ⟨supervision, hsupervisor, -, logged⟩ := still.supervisor
    have watching : supervision = .watching process := by
      simpa [hsupervisor] using (watches some_).watching
    obtain ⟨there, status⟩ := (watches some_).runs
    let k : Host := { started.waitUntil exitKnown n with supervisor, patience := n }
    have told' : (((h.withPatience n).withServer settings f.sink).waitUntil exitKnown
        (h.withPatience n).patience).tryExit = (some none, k) := by
      rw [show (h.withPatience n).patience = n from rfl, patient, withPatience_tryExit, told]
      rfl
    refine ⟨k, ?_, (logged process watching).2, there, status⟩
    exact runServer_of_tryExit told'

end CommandLine

end Host

/-- **Who is told of an exit finds the session reported.** Let a sink take diagnostics.

* Let an observer ask the handle of a server, in any order with the steps of the thread of its
  supervisor. Whenever it is told of an exit, that is the exit of the session that the events have
  brought, and everything that the thread will ever report has been reported: nothing for a server
  that has ended by success, and otherwise the one diagnostic that goes with the exit.
* A command line that runs the server ends when the session of the server has ended, and it ends
  well exactly if the server has left the exit code zero. When it ends, what goes with the exit is
  with the sink, behind what was there before. A host that does not wait for ever gives up only
  when it has waited as long as it is patient and the thread has not ended.
* With enough patience such a command line has one result, or the server was started as a process
  that never ends. -/
theorem reported_before_told {sink : Sink} (listens : sink ≠ .refusing) :
    (∀ (program : String) (directory : Option String) (events : List (ServerEvent 1))
        (s : ServerScene 1), (ServerScene.start program directory sink 1).run? events = some s →
      ∀ r ∈ s.told, ∀ exit, r.answer = .exit (some exit) →
        (∃ session : SessionEnd, session.Came program events ∧ exit = session.exit program ∧
          s.reports = (session.diagnostic? program).toList) ∧
        exit.Reports program s.reports ∧ (exit.isSuccess = true ↔ s.reports = []) ∧
        ∀ later t, s.run? later = some t → t.reports = s.reports) ∧
    ∀ (h : Host) (client : Client) (json : Bool) (settings : Settings) (input : List UInt8),
      ((∃ k, h.runServer ⟨client, sink, json⟩ settings input = (.error .unending, k) ∧
        k.supervisor.supervision ≠ .finished ∧ h.Waited k) ∨
      ∃ (k : Host) (session : SessionEnd) (error : Option RunError), k.Saw session ∧
        h.runServer ⟨client, sink, json⟩ settings input = (.ok ⟨"", 0, error, input⟩, k) ∧
        (error = if session.exit settings.serverProgram = .exited (some 0) then none
          else some (.serverStopped (session.exit settings.serverProgram))) ∧
        ((sink = .channel → h.serverChannel.receiving = true) →
          ∃ ds, k.serverReports sink = h.serverReports sink ++ ds ∧
            (session.exit settings.serverProgram).Reports settings.serverProgram ds)) ∧
      let run := fun n => (h.withPatience n).runServer ⟨client, sink, json⟩ settings input
      Host.Settles run ∨ ∃ process, Host.Lasts run fun k =>
        (∃ time, (time, .serverStarted settings.serverProgram process) ∈ k.log) ∧
          k.Runs process := by
  constructor
  · intro program directory events s moved r told exit answer
    obtain ⟨session, came, concluded, hexit, reports⟩ :=
      ServerScene.session_of_told listens moved told answer
    have goes : exit.Reports program s.reports := by
      rw [hexit, reports]
      exact session.reports_exit program
    refine ⟨⟨session, came, hexit, reports⟩, goes, goes.isSuccess_iff, fun later t hlater => ?_⟩
    exact concluded.reports_run hlater
  · intro h client json settings input
    refine ⟨(h.runServer_cases listens settings input).imp id ?_,
      h.settles_or_lasts_runServer listens settings input⟩
    rintro ⟨k, session, saw, hrun, reports⟩
    refine ⟨k, session, _, saw, hrun, ?_, fun taken => ⟨_, reports taken, ?_⟩⟩
    · simp [ServerExit.isSuccess]
    · exact session.reports_exit settings.serverProgram

/-- An observer waits for a server that ends with a code, and finds its diagnostic. -/
theorem reported_before_told_code :
    let events : List (ServerEvent 1) := [.resolve (some "/bin/server"), .spawn (.ok 7),
      .ask 0 .wait, .awaited (.ok (.code 3)), .report, .send, .receive 0 false, .settle 0]
    Sink.channel ≠ .refusing ∧
      ∃ s, (ServerScene.start "server" none .channel 1).run? events = some s ∧
        s.told = [⟨0, .wait, .exit (some (.exited (some 3)))⟩] ∧
        s.reports = [⟨.serverExited, "'server' exited with code 3"⟩] ∧
        ∀ later t, s.run? later = some t → t.reports = s.reports := by
  intro events
  obtain ⟨s, moved, told⟩ : ∃ s, (ServerScene.start "server" none .channel 1).run? events = some s ∧
      s.told = [⟨0, .wait, .exit (some (.exited (some 3)))⟩] := ⟨_, rfl, rfl⟩
  have listens : Sink.channel ≠ .refusing := nofun
  obtain ⟨-, goes, -, stays⟩ := (reported_before_told listens).1 "server" none events s moved
    ⟨0, .wait, .exit (some (.exited (some 3)))⟩ (by simp [told]) (.exited (some 3)) rfl
  refine ⟨listens, s, moved, told, ?_, stays⟩
  generalize hexit : ServerExit.exited (some 3) = exit at goes
  generalize s.reports = ds at goes ⊢
  cases goes with
  | code n failure =>
    obtain rfl : 3 = n := by exact_mod_cast Option.some.inj (ServerExit.exited.inj hexit)
    decide +kernel
  | _ => simp at hexit

end InspectionHost
