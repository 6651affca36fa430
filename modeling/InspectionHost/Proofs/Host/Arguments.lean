import InspectionHost.Proofs.Host.Calls

/-!
# What processes are started with

A process keeps the arguments it was started with. On a host only two things start one: a call
starts its client, and the supervisor starts its server and logs the number of the process. So
where all calls are for requests of one kind, each process is a logged server or the client of such
a request. A supervisor that is about to launch its server has one launch left, and any other has
none.

## Main definitions

* `Machine.arguments` : what the processes of a machine were started with.
* `CallRequest.Starts` : what the client of a request is started with.
* `Host.servers`, `Host.dueServers` : the servers that were launched, and how many are still to be.
* `Host.Launches` : between two hosts only clients of some requests were started.
* `Host.Serves` : all calls of a host are for some requests, and so are its processes but so many
  servers.

## Main results

* `Machine.arguments_tick` : processes keep their arguments.
* `Host.launches_advanceCalls` : calls start their own clients.
* `Host.Serves.tick`, `Host.Serves.ask` : a host goes on to serve the same requests.
-/

namespace InspectionHost

/-! ### Machines -/

namespace Machine

/-- What the processes of a machine were started with, in the order of their start. -/
def arguments (m : Machine) : List (List String) :=
  m.processes.map Process.arguments

theorem arguments_signalled (p : Process) (number : Nat) :
    (signalled p number).arguments = p.arguments := by
  unfold signalled
  split <;> rfl

theorem arguments_perform (m : Machine) (p : Process) (s : Step) :
    (m.perform p s).2.arguments = p.arguments := by
  cases s with
  | signal number => exact arguments_signalled p number
  | await path =>
    simp only [perform]
    split <;> rfl
  | ifArgument number expected steps =>
    simp only [perform]
    split <;> rfl
  | _ => rfl

theorem arguments_run (fuel : Nat) (m : Machine) (p : Process) :
    (m.run fuel p).2.arguments = p.arguments := by
  induction fuel generalizing m p with
  | zero => rfl
  | succ fuel ih =>
    rw [run]
    split
    · rfl
    · next s rest _ _ =>
      split
      · rfl
      · exact (ih _ _).trans (arguments_perform m { p with steps := rest } s)
    · rfl

theorem arguments_advance (m : Machine) (p : Process) :
    (m.advance p).2.arguments = p.arguments := by
  unfold advance
  split
  · split
    · exact arguments_run _ _ _
    · rfl
  · exact arguments_run _ _ _
  · dsimp only
    split <;> rfl
  · rfl

theorem arguments_advanceAll (ps : List Process) (m : Machine) :
    (m.advanceAll ps).2.map Process.arguments = ps.map Process.arguments := by
  induction ps generalizing m with
  | nil => rfl
  | cons p rest ih =>
    rw [advanceAll, List.map_cons, List.map_cons, arguments_advance, ih]

/-- Processes keep their arguments. -/
@[simp] theorem arguments_tick (m : Machine) : m.tick.arguments = m.arguments :=
  arguments_advanceAll m.processes _

@[simp] theorem arguments_kill (m : Machine) (process : Nat) :
    (m.kill process).arguments = m.arguments := by
  refine List.ext_getElem? fun n => ?_
  simp only [arguments, kill, List.getElem?_map, List.getElem?_modify]
  cases m.processes[n]? with
  | none => rfl
  | some p =>
    refine congrArg some ?_
    split
    · dsimp only
      split <;> rfl
    · rfl

@[simp] theorem arguments_spawn (m : Machine) (image : Image) (sharesErrors : Bool) :
    (m.spawn image sharesErrors).2.arguments = m.arguments ++ [image.arguments] := by
  simp [arguments, spawn]

end Machine

/-! ### Calls -/

/-- The client of a request may be started with these arguments: they are those of its program,
wherever it was found, launched for the command of the request. -/
def CallRequest.Starts (r : CallRequest) (args : List String) : Prop :=
  ∃ path files directory environment image,
    (r.client.launch path r.command).start files directory environment = .ok image ∧
      args = image.arguments

/-- The process of a server that an event of the log tells of. -/
def LogEvent.server? : LogEvent → Option Nat
  | serverStarted _ process => some process
  | _ => none

namespace Host

/-- The processes of the servers that were launched, the last first, as the log tells. -/
def servers (h : Host) : List Nat :=
  h.log.filterMap fun entry => entry.2.server?

/-- How many servers are about to be launched. -/
def dueServers (h : Host) : Nat :=
  if h.supervisor.supervision = .launching then 1 else 0

theorem filterMap_server?_foldl (ds : List Diagnostic) (now : Nat) (log : List (Nat × LogEvent)) :
    (ds.foldl (fun log d => (now, LogEvent.diagnostic d) :: log) log).filterMap
      (fun entry => entry.2.server?) = log.filterMap fun entry => entry.2.server? := by
  induction ds generalizing log with
  | nil => rfl
  | cons d rest ih => exact ih _

@[simp] theorem servers_deliverClient (h : Host) (sink : Sink) (ds : List Diagnostic) :
    (h.deliverClient sink ds).servers = h.servers := by
  cases sink with
  | channel | refusing => rfl
  | log => exact filterMap_server?_foldl ds _ h.log

@[simp] theorem servers_deliverServer (h : Host) (sink : Sink) (ds : List Diagnostic) :
    (h.deliverServer sink ds).servers = h.servers := by
  cases sink with
  | channel | refusing => rfl
  | log => exact filterMap_server?_foldl ds _ h.log

/-- The second host has the processes of the first, and further clients that were each started for
one of the requests. No server was launched. -/
structure Launches (P : CallRequest → Prop) (h k : Host) : Prop where
  arguments : ∃ more, k.machine.arguments = h.machine.arguments ++ more ∧
    ∀ args ∈ more, ∃ r, P r ∧ r.Starts args
  servers : k.servers = h.servers

variable {P : CallRequest → Prop} {most : Nat} {h k l : Host}

theorem launches_of_eq (same : k.machine.arguments = h.machine.arguments)
    (servers : k.servers = h.servers) : Launches P h k :=
  ⟨⟨[], by rw [same, List.append_nil], nofun⟩, servers⟩

theorem Launches.trans (first : Launches P h k) (second : Launches P k l) : Launches P h l := by
  obtain ⟨more, hmore, started⟩ := first.arguments
  obtain ⟨more', hmore', started'⟩ := second.arguments
  refine ⟨⟨more ++ more', by rw [hmore', hmore, List.append_assoc], fun args there => ?_⟩,
    second.servers.trans first.servers⟩
  exact (List.mem_append.1 there).elim (started args) (started' args)

theorem launches_cancels (alarms : List (Nat × Nat)) (h : Host) :
    Launches P h (alarms.foldl (fun h alarm => h.cancel alarm.2) h) := by
  induction alarms generalizing h with
  | nil => exact launches_of_eq rfl rfl
  | cons alarm rest ih =>
    have first : Launches P h (h.cancel alarm.2) := launches_of_eq rfl rfl
    exact first.trans (ih _)

theorem launches_ringAlarms (h : Host) : Launches P h h.ringAlarms := by
  have cancelled : Launches P h
      ((h.alarms.partition fun alarm => alarm.1 ≤ h.machine.now).1.foldl
        (fun h alarm => h.cancel alarm.2) h) := launches_cancels _ h
  exact ⟨cancelled.arguments, cancelled.servers⟩

theorem launches_concludeCall (h : Host) (c : ActiveCall) :
    Launches P h (h.concludeCall c).1 := by
  have stopped : Launches P h (h.stopClient c).1 := by
    unfold stopClient
    split
    · refine launches_of_eq ?_ rfl
      cases c.process <;> simp
    · exact launches_of_eq rfl rfl
  refine stopped.trans (launches_of_eq ?_ ?_) <;> simp [concludeCall]

/-- A launch starts the client of its request. -/
theorem launches_launchClient (h : Host) {r : CallRequest} (asked : P r) :
    Launches P h (h.launchClient r.client r.command).2.2 := by
  cases found : lookUpProgram h.machine.files h.directory h.environment
      r.client.options.program with
  | none =>
    simp only [launchClient, found]
    exact launches_of_eq rfl rfl
  | some path =>
    cases started : (r.client.launch path r.command).start h.machine.files h.directory
        h.environment with
    | error error =>
      simp only [launchClient, found, started]
      exact launches_of_eq rfl rfl
    | ok image =>
      simp only [launchClient, found, started]
      refine ⟨⟨[image.arguments], Machine.arguments_spawn .., fun args there => ⟨r, asked, ?_⟩⟩,
        rfl⟩
      exact ⟨path, _, _, _, image, started, List.mem_singleton.1 there⟩

theorem launches_beginCall (h : Host) {c : ActiveCall} (asked : P c.toCallRequest) :
    Launches P h (h.beginCall c).1 :=
  (h.launches_launchClient asked).trans (launches_concludeCall _ _)

theorem launches_advanceCall (h : Host) {c : ActiveCall} (asked : P c.toCallRequest) :
    Launches P h (h.advanceCall c).1 := by
  unfold advanceCall
  split
  · exact h.launches_beginCall asked
  · exact h.launches_concludeCall _

/-- Calls start their own clients. -/
theorem launches_advanceCalls {cs : List ActiveCall} (asked : ∀ c ∈ cs, P c.toCallRequest)
    (h : Host) : Launches P h (h.advanceCalls cs).1 := by
  induction cs generalizing h with
  | nil => exact launches_of_eq rfl rfl
  | cons c rest ih =>
    obtain ⟨first, later⟩ := List.forall_mem_cons.1 asked
    exact (h.launches_advanceCall first).trans (ih later _)

/-! ### What was asked for -/

@[simp] theorem toCallRequest_look (h : Host) (c : ActiveCall) :
    (h.look c).toCallRequest = c.toCallRequest := by
  obtain ⟨phase, nextLook, looked⟩ := h.exists_look_eq c
  rw [looked]

@[simp] theorem toCallRequest_concludeCall (h : Host) (c : ActiveCall) :
    (h.concludeCall c).2.toCallRequest = c.toCallRequest := by
  refine (ActiveCall.toCallRequest_conclude (h.stopClient c).2).trans ?_
  unfold stopClient
  split <;> rfl

@[simp] theorem toCallRequest_beginCall (h : Host) (c : ActiveCall) :
    (h.beginCall c).2.toCallRequest = c.toCallRequest :=
  (toCallRequest_concludeCall _ _).trans (toCallRequest_look _ _)

@[simp] theorem toCallRequest_advanceCall (h : Host) (c : ActiveCall) :
    (h.advanceCall c).2.toCallRequest = c.toCallRequest := by
  unfold advanceCall
  split <;> simp

theorem map_toCallRequest_advanceCalls (cs : List ActiveCall) (h : Host) :
    (h.advanceCalls cs).2.map (·.toCallRequest) = cs.map (·.toCallRequest) := by
  induction cs generalizing h with
  | nil => rfl
  | cons c rest ih =>
    rw [advanceCalls, List.map_cons, List.map_cons, toCallRequest_advanceCall, ih]

/-! ### Hosts that serve requests -/

/-- All calls of a host are for some requests, and all its processes but the servers are clients of
such requests. There are at most so many servers, those that are still to be launched counted. -/
structure Serves (P : CallRequest → Prop) (most : Nat) (h : Host) : Prop where
  calls : ∀ c ∈ h.calls, P c.toCallRequest
  processes : ∀ n args, h.machine.arguments[n]? = some args →
    n ∈ h.servers ∨ ∃ r, P r ∧ r.Starts args
  servers : h.servers.length + h.dueServers ≤ most

/-- Clients may be launched beside the servers. -/
theorem Serves.of_launches (serves : h.Serves P most) (launches : Launches P h k)
    (calls : ∀ c ∈ k.calls, P c.toCallRequest) (supervisor : k.supervisor = h.supervisor) :
    k.Serves P most := by
  refine ⟨calls, fun n args there => ?_, ?_⟩
  · obtain ⟨more, hmore, started⟩ := launches.arguments
    rw [hmore, List.getElem?_append] at there
    rw [launches.servers]
    split at there
    · exact serves.processes n args there
    · exact .inr (started args (List.mem_of_getElem? there))
  · rw [launches.servers, dueServers, supervisor]
    exact serves.servers

theorem Serves.endSupervision (serves : h.Serves P most) (reported : Reported ServerExit) :
    (h.endSupervision reported).Serves P most := by
  have machine : (h.endSupervision reported).machine = h.machine := machine_deliverServer ..
  have servers : (h.endSupervision reported).servers = h.servers := servers_deliverServer ..
  have due : (h.endSupervision reported).dueServers = 0 := rfl
  refine ⟨fun c there => serves.calls c (by simpa using there), ?_, ?_⟩
  · rw [machine, servers]
    exact serves.processes
  · rw [servers, due]
    exact Nat.le_of_add_right_le serves.servers

/-- The supervisor starts nothing but a server that is due. -/
theorem Serves.supervise (serves : h.Serves P most) : h.supervise.Serves P most := by
  unfold Host.supervise
  split
  · next launching =>
    split
    · exact serves.endSupervision _
    · next process machine launched =>
      obtain ⟨number, -, image, -, rfl⟩ := exists_spawn_of_launchServer launched
      have due : h.dueServers = 1 := if_pos launching
      refine ⟨serves.calls, fun n args' there => ?_, ?_⟩
      · have there : (h.machine.arguments ++ [image.arguments])[n]? = some args' :=
          Machine.arguments_spawn h.machine image true ▸ there
        rw [List.getElem?_append] at there
        split at there
        · exact (serves.processes n args' there).imp_left (List.mem_cons_of_mem _)
        · next behind =>
          have last : n - h.machine.arguments.length = 0 := by
            simpa using (List.getElem?_eq_some_iff.1 there).1
          have length : h.machine.arguments.length = h.machine.processes.length :=
            List.length_map ..
          obtain rfl : n = process := by omega
          exact .inl List.mem_cons_self
      · have bound := serves.servers
        rw [due] at bound
        exact bound
  · split
    · exact serves
    · split
      · have ended : (h.record (.serverEnded h.supervisor.program)).Serves P most :=
          ⟨serves.calls, serves.processes, serves.servers⟩
        exact ended.endSupervision _
      · exact serves.endSupervision _
  · exact serves

/-- A tick starts the clients of calls, and a server that is due. -/
theorem Serves.tick (serves : h.Serves P most) : h.tick.Serves P most := by
  let rung := { h with machine := h.machine.tick }.ringAlarms
  have calls : ∀ c ∈ rung.calls, P c.toCallRequest := fun c there =>
    serves.calls c (by simpa [rung] using there)
  have advanced : ∀ c ∈ (rung.advanceCalls rung.calls).2, P c.toCallRequest := by
    intro c there
    have mem : c.toCallRequest ∈ rung.calls.map (·.toCallRequest) := by
      rw [← map_toCallRequest_advanceCalls]
      exact List.mem_map_of_mem there
    obtain ⟨c', there', same⟩ := List.mem_map.1 mem
    exact same ▸ calls c' there'
  have ticked : Launches P h { h with machine := h.machine.tick } :=
    launches_of_eq (Machine.arguments_tick _) rfl
  have launches : Launches P h (rung.advanceCalls rung.calls).1 :=
    (ticked.trans (launches_ringAlarms _)).trans (launches_advanceCalls calls rung)
  have beside : Beside { h with machine := h.machine.tick } (rung.advanceCalls rung.calls).1 :=
    (beside_ringAlarms _).trans (beside_advanceCalls _ _)
  have called : ({ (rung.advanceCalls rung.calls).1 with
      calls := (rung.advanceCalls rung.calls).2 } : Host).Serves P most :=
    serves.of_launches ⟨launches.arguments, launches.servers⟩ advanced beside.supervisor
  exact called.supervise

theorem Serves.waitUntil (serves : h.Serves P most) (done : Host → Bool) (ticks : Nat) :
    (h.waitUntil done ticks).Serves P most :=
  waitUntil_induction (motive := Serves P most) (fun _ serves _ => serves.tick) ticks h serves

/-- To ask the client starts a client for the request, and nothing else. -/
theorem Serves.ask (serves : h.Serves P most) {f : Front} {command : Command}
    (asked : P ⟨f.client, command, f.sink, none⟩) : (h.ask f command).2.Serves P most := by
  let r : CallRequest := ⟨f.client, command, f.sink, none⟩
  have launches : Launches P h (h.beginCall (.new r)).1 := h.launches_beginCall asked
  have calls : ∀ c ∈ (h.withCall r).calls, P c.toCallRequest := by
    intro c there
    rcases List.mem_append.1 there with old | new
    · exact serves.calls c old
    · obtain rfl := List.mem_singleton.1 new
      rw [toCallRequest_beginCall]
      exact asked
  have begun : (h.withCall r).Serves P most :=
    serves.of_launches ⟨launches.arguments, launches.servers⟩ calls
      (h.beside_beginCall (.new r)).supervisor
  rw [Host.ask, execute_eq]
  exact begun.waitUntil _ _

end Host

end InspectionHost
