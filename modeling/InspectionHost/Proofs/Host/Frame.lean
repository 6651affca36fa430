import InspectionHost.Host.Server

/-!
# What the server has no part in

Client calls and tokens go on beside the server. They touch neither the supervisor with its handle
nor the channel of its diagnostics, and what they log is not about the server. So in a tick of the
clock the supervisor goes on as if there were nothing else.

## Main definitions

* `Host.serverReports` : the diagnostics of the server that a sink has taken.
* `Host.Beside` : hosts that differ by what has nothing to do with the server.

## Main results

* `Host.beside_advanceCalls` : client calls have nothing to do with the server.
* `Host.exists_beside_tick` : a tick is a step of the supervisor behind them.
* `Host.waitUntil_induction` : what every tick keeps up to a condition holds when the wait is over.
-/

namespace InspectionHost

/-- The diagnostic of the server that an event of the log tells. -/
def LogEvent.serverDiagnostic? : LogEvent → Option Diagnostic
  | diagnostic d => if d.kind.isServer then some d else none
  | _ => none

theorem FailureKind.isServer_diagnosticKind (k : FailureKind) :
    k.diagnosticKind.isServer = false := by
  cases k <;> rfl

/-- The diagnostic of a call is not about the server. -/
theorem CallEnding.isServer_of_diagnostic? {ending : CallEnding} {program : String}
    {command : Command} {d : Diagnostic} (h : ending.diagnostic? program command = some d) :
    d.kind.isServer = false := by
  cases ending with
  | completed status lines =>
    obtain ⟨-, hd⟩ := Option.ite_none_left_eq_some.1 h
    obtain rfl := Option.some.inj hd
    rfl
  | failed failure =>
    obtain rfl := Option.some.inj h
    exact failure.kind.isServer_diagnosticKind

theorem Sink.eq_of_mem_report {s : Sink} {d d' : Diagnostic} (h : d ∈ (s.report d').diagnostics) :
    d = d' := by
  cases s with
  | channel | log => exact List.mem_singleton.1 h
  | refusing => simp [report] at h

/-- What is reported for a call is not about the server. -/
theorem ActiveCall.isServer_of_mem_conclude {c : ActiveCall} {d : Diagnostic}
    (reported : d ∈ c.conclude.1) : d.kind.isServer = false := by
  unfold conclude at reported
  split at reported
  · next ending _ _ =>
    simp only [CallEnding.conclude] at reported
    cases hd : ending.diagnostic? c.client.options.program c.command with
    | none => simp [hd, Sink.reportAll, bind, Reported.bind, pure, Reported.pure] at reported
    | some d' =>
      have mem : d ∈ (c.sink.report d').diagnostics := by
        cases hsink : c.sink <;>
          simpa only [hd, hsink, Sink.reportAll, Sink.report, bind, Reported.bind, pure,
            Reported.pure, List.append_nil] using reported
      obtain rfl : d = d' := Sink.eq_of_mem_report mem
      exact CallEnding.isServer_of_diagnostic? hd
  · simp at reported
  · simp at reported

namespace Host

/-- The diagnostics of the server that a sink has taken and nobody has received, the oldest
first. -/
def serverReports (h : Host) : Sink → List Diagnostic
  | .channel => h.serverChannel.waiting
  | .log => h.log.reverse.filterMap fun entry => entry.2.serverDiagnostic?
  | .refusing => []

/-- The second host comes behind the first at one reading of the clock, and differs from it by what
has nothing to do with the server. No process is gone. -/
structure Beside (h k : Host) : Prop where
  supervisor : k.supervisor = h.supervisor
  serverChannel : k.serverChannel = h.serverChannel
  log : ∃ more, k.log = more ++ h.log ∧ ∀ entry ∈ more, entry.2.serverDiagnostic? = none
  now : k.machine.now = h.machine.now
  processes : h.machine.processes.length ≤ k.machine.processes.length

variable {h k l : Host}

theorem Beside.refl (h : Host) : h.Beside h :=
  ⟨rfl, rfl, ⟨[], rfl, nofun⟩, rfl, Nat.le_refl _⟩

theorem Beside.trans (first : h.Beside k) (second : k.Beside l) : h.Beside l := by
  obtain ⟨more, hmore, none_⟩ := first.log
  obtain ⟨more', hmore', none_'⟩ := second.log
  refine ⟨second.supervisor.trans first.supervisor,
    second.serverChannel.trans first.serverChannel, ⟨more' ++ more, ?_, ?_⟩,
    second.now.trans first.now, Nat.le_trans first.processes second.processes⟩
  · rw [hmore', hmore, List.append_assoc]
  · intro entry hentry
    exact (List.mem_append.1 hentry).elim (none_' entry) (none_ entry)

/-- No sink has taken another diagnostic of the server. -/
theorem Beside.serverReports (beside : h.Beside k) (sink : Sink) :
    k.serverReports sink = h.serverReports sink := by
  cases sink with
  | channel => exact congrArg DiagnosticChannel.waiting beside.serverChannel
  | refusing => rfl
  | log =>
    obtain ⟨more, hmore, none_⟩ := beside.log
    have nothing : more.reverse.filterMap (fun entry => entry.2.serverDiagnostic?) = [] := by
      rw [List.filterMap_eq_nil_iff]
      intro entry hentry
      exact none_ entry (List.mem_reverse.1 hentry)
    simp only [Host.serverReports, hmore, List.reverse_append, List.filterMap_append, nothing,
      List.append_nil]

theorem Beside.mem_log (beside : h.Beside k) {entry : Nat × LogEvent} (there : entry ∈ h.log) :
    entry ∈ k.log := by
  obtain ⟨more, hmore, -⟩ := beside.log
  rw [hmore]
  exact List.mem_append_right more there

theorem beside_kill (h : Host) (process : Nat) :
    h.Beside { h with machine := h.machine.kill process } :=
  ⟨rfl, rfl, ⟨[], rfl, nofun⟩, rfl, by simp [Machine.kill]⟩

theorem beside_spawn (h : Host) (image : Image) (sharesErrors : Bool) :
    h.Beside { h with machine := (h.machine.spawn image sharesErrors).2 } :=
  ⟨rfl, rfl, ⟨[], rfl, nofun⟩, rfl, by simp [Machine.spawn]⟩

/-! ### Client calls -/

/-- Diagnostics of clients go to their own channel or to the log. -/
theorem beside_deliverClient (h : Host) (sink : Sink) {ds : List Diagnostic}
    (clients : ∀ d ∈ ds, d.kind.isServer = false) : h.Beside (h.deliverClient sink ds) := by
  cases sink with
  | channel => exact ⟨rfl, rfl, ⟨[], rfl, nofun⟩, rfl, Nat.le_refl _⟩
  | refusing => exact .refl h
  | log =>
    have log : (h.deliverClient .log ds).log =
        (ds.map fun d => (h.machine.now, LogEvent.diagnostic d)).reverse ++ h.log :=
      List.foldl_flip_cons_eq_append
    refine ⟨rfl, rfl, ⟨_, log, ?_⟩, rfl, Nat.le_refl _⟩
    intro entry hentry
    obtain ⟨d, hd, rfl⟩ := List.mem_map.1 (List.mem_reverse.1 hentry)
    simp [LogEvent.serverDiagnostic?, clients d hd]

theorem beside_stopClient (h : Host) (c : ActiveCall) : h.Beside (h.stopClient c).1 := by
  unfold stopClient
  split
  · cases c.process with
    | none => exact .refl h
    | some process => exact h.beside_kill process
  · exact .refl h

theorem beside_concludeCall (h : Host) (c : ActiveCall) : h.Beside (h.concludeCall c).1 :=
  (h.beside_stopClient c).trans <|
    beside_deliverClient _ _ fun _ reported => ActiveCall.isServer_of_mem_conclude reported

theorem beside_launchClient (h : Host) (client : Client) (command : Command) :
    h.Beside (h.launchClient client command).2.2 := by
  cases found : lookUpProgram h.machine.files h.directory h.environment client.options.program with
  | none =>
    simp only [launchClient, found]
    exact .refl h
  | some path =>
    cases started : (client.launch path command).start h.machine.files h.directory
        h.environment with
    | error error =>
      simp only [launchClient, found, started]
      exact .refl h
    | ok image =>
      simp only [launchClient, found, started]
      exact h.beside_spawn image _

theorem beside_beginCall (h : Host) (c : ActiveCall) : h.Beside (h.beginCall c).1 :=
  (h.beside_launchClient c.client c.command).trans (beside_concludeCall _ _)

theorem beside_advanceCall (h : Host) (c : ActiveCall) : h.Beside (h.advanceCall c).1 := by
  unfold advanceCall
  split
  · exact h.beside_beginCall c
  · exact h.beside_concludeCall _

/-- Client calls have nothing to do with the server. -/
theorem beside_advanceCalls (cs : List ActiveCall) (h : Host) : h.Beside (h.advanceCalls cs).1 := by
  induction cs generalizing h with
  | nil => exact .refl h
  | cons c rest ih => exact (h.beside_advanceCall c).trans (ih _)

/-! ### Ticks -/

theorem beside_cancels (alarms : List (Nat × Nat)) (h : Host) :
    h.Beside (alarms.foldl (fun h alarm => h.cancel alarm.2) h) := by
  induction alarms generalizing h with
  | nil => exact .refl h
  | cons alarm rest ih =>
    have first : h.Beside (h.cancel alarm.2) :=
      ⟨rfl, rfl, ⟨[], rfl, nofun⟩, rfl, Nat.le_refl _⟩
    exact first.trans (ih _)

theorem beside_ringAlarms (h : Host) : h.Beside h.ringAlarms := by
  have cancelled := beside_cancels (h.alarms.partition fun alarm => alarm.1 ≤ h.machine.now).1 h
  exact ⟨cancelled.supervisor, cancelled.serverChannel, cancelled.log, cancelled.now,
    cancelled.processes⟩

/-- A tick is a tick of the machine and a step of the supervisor, with what has nothing to do with
the server between them. -/
theorem exists_beside_tick (h : Host) :
    ∃ k, { h with machine := h.machine.tick }.Beside k ∧ h.tick = k.supervise := by
  let rung := { h with machine := h.machine.tick }.ringAlarms
  have called : { h with machine := h.machine.tick }.Beside (rung.advanceCalls rung.calls).1 :=
    (beside_ringAlarms _).trans (beside_advanceCalls _ _)
  exact ⟨{ (rung.advanceCalls rung.calls).1 with calls := (rung.advanceCalls rung.calls).2 },
    ⟨called.supervisor, called.serverChannel, called.log, called.now, called.processes⟩, rfl⟩

/-- What every tick keeps, as long as a condition does not hold, holds when the wait is over. -/
theorem waitUntil_induction {motive : Host → Prop} {done : Host → Bool}
    (step : ∀ h, motive h → done h = false → motive h.tick) (ticks : Nat) (h : Host)
    (start : motive h) : motive (h.waitUntil done ticks) := by
  induction ticks generalizing h with
  | zero => exact start
  | succ ticks ih =>
    rw [waitUntil]
    split
    · exact start
    · next going => exact ih h.tick (step h start (by simpa using going))

end Host

end InspectionHost
