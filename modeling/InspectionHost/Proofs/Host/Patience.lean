import InspectionHost.Proofs.Host.Calls
import InspectionHost.Proofs.Session.Answers

/-!
# Patience with clients

A call that is waited for is looked at in every tick. While it has no result, one of two things
holds: it has no time of its own, and its client runs or somebody holds the output of the client
open; or its time is not over. So a call with a time of its own always ends, and so does any call
whose client ends and closes its output. A host that gives up on such a call was not patient enough.

## Main definitions

* `Host.Tends`, `Host.Attends` : a call without a result, before and behind its turn in a tick.
* `Host.TendsLast` : the last call of a host has its result, or is attended to.

## Main results

* `Host.attends_beginCall`, `Host.Tends.advanceCall` : a call has its result, or is attended to.
* `Host.settles_or_lasts_execute` : a call has one result for every patience that is large enough,
  or its client never lets it end.
* `Session.settles_or_lasts_serve`, `Session.settles_or_lasts_serveCandidates` : so it is with
  sessions.
-/

namespace InspectionHost

namespace Limits

variable {l : Limits} {limit : Duration} {deadline now : Nat}

theorem isUnbounded_of_none (timed : l.timeout = none) (cancellable : l.cancellable = false) :
    l.isUnbounded = true := by
  simp [isUnbounded, timed, cancellable]

theorem isUnbounded_of_some (timed : l.timeout = some (limit, deadline)) :
    l.isUnbounded = false := by
  simp [isUnbounded, timed]

theorem check_of_some (timed : l.timeout = some (limit, deadline))
    (cancellable : l.cancellable = false) (cancelled : Bool) (now : Nat) :
    l.check cancelled now = if deadline ≤ now then some (.timedOut limit) else none := by
  simp [check, checkToken, checkClock, timed, cancellable]

/-- The next look comes no later than the time is over, or at once. -/
theorem add_tick_le (timed : l.timeout = some (limit, deadline)) :
    now + l.tick now ≤ deadline ∨ now + l.tick now ≤ now := by
  simp only [tick, timed]
  omega

end Limits

namespace Host

variable {h k : Host} {p : Nat} {l : Limits} {c : ActiveCall}

/-! ### One call -/

/-- A call is under way that cannot be cancelled. Its client is there, and it is looked at again no
later than its time is over. -/
structure Tends (h : Host) (p : Nat) (l : Limits) (c : ActiveCall) : Prop where
  result : c.result = none
  process : c.process = some p
  there : p < h.machine.processes.length
  limits : c.limits = l
  cancellable : l.cancellable = false
  phase : c.phase = .waiting .event ∨ ∃ status, c.phase = .collecting status .event
  timed : ∀ t ∈ l.timeout, c.nextLook ≤ t.2 ∨ c.nextLook ≤ h.machine.now
  untimed : l.timeout = none → c.phase = .waiting .event → c.nextLook ≤ h.machine.now

/-- Such a call has been looked at: if it has no time of its own its client is busy, and else its
time is not over. -/
structure Attends (h : Host) (p : Nat) (l : Limits) (c : ActiveCall) : Prop where
  tends : h.Tends p l c
  busy : l.timeout = none → h.Busy p
  early : ∀ t ∈ l.timeout, h.machine.now < t.2

/-- A call is looked at again on a host on which time has passed and no process is gone. -/
theorem Tends.of_le (tends : h.Tends p l c) (now : h.machine.now ≤ k.machine.now)
    (processes : h.machine.processes.length ≤ k.machine.processes.length) : k.Tends p l c where
  result := tends.result
  process := tends.process
  there := Nat.lt_of_lt_of_le tends.there processes
  limits := tends.limits
  cancellable := tends.cancellable
  phase := tends.phase
  timed t timed := (tends.timed t timed).imp_right fun due => Nat.le_trans due now
  untimed timed waiting := Nat.le_trans (tends.untimed timed waiting) now

theorem Tends.attends_of_busy (tends : h.Tends p l c) (untimed : l.timeout = none)
    (busy : h.Busy p) : h.Attends p l c :=
  ⟨tends, fun _ => busy, by simp [untimed]⟩

theorem Tends.attends_of_early (tends : h.Tends p l c) {limit : Duration} {deadline : Nat}
    (timed : l.timeout = some (limit, deadline)) (early : h.machine.now < deadline) :
    h.Attends p l c :=
  ⟨tends, by simp [timed], by simpa [timed] using early⟩

theorem Tends.attends_of_soon (tends : h.Tends p l c) {limit : Duration} {deadline : Nat}
    (timed : l.timeout = some (limit, deadline)) (soon : h.machine.now < c.nextLook) :
    h.Attends p l c := by
  refine tends.attends_of_early timed ?_
  have due := tends.timed (limit, deadline) (by simp [timed])
  omega

theorem exit_glance_of_none (started : c.process = some p) (status : h.machine.status? p = none) :
    (h.glance c).exit = .pending := by
  simp [glance, started, status]

theorem exit_glance_of_some {status : ExitStatus} (started : c.process = some p)
    (ended : h.machine.status? p = some status) : (h.glance c).exit = .ended status := by
  simp [glance, started, ended]

theorem capture_glance_of_none (started : c.process = some p)
    (output : h.machine.output? p = none) : (h.glance c).capture = .pending := by
  simp [glance, started, output]

theorem capture_glance_of_some {pieces : List (List UInt8)} (started : c.process = some p)
    (output : h.machine.output? p = some pieces) :
    (h.glance c).capture = .lines (readLines pieces) := by
  simp [glance, started, output]

/-- A call goes on behind a look whose phase tells so. -/
theorem Tends.look_of_phase (tends : h.Tends p l c)
    (phase : (c.look (h.glance c)).phase = .waiting .event ∨
      ∃ status, (c.look (h.glance c)).phase = .collecting status .event)
    (untimed : l.timeout = none → (c.look (h.glance c)).phase ≠ .waiting .event) :
    h.Tends p l (c.look (h.glance c)) where
  result := tends.result
  process := tends.process
  there := tends.there
  limits := tends.limits
  cancellable := tends.cancellable
  phase := phase
  timed t timed := by
    rw [ActiveCall.look, tends.limits]
    exact Limits.add_tick_le timed
  untimed none_ waiting := (untimed none_ waiting).elim

/-- A look at the output of a client ends the call, or the call is attended to. -/
theorem Tends.lookAtOutput (tends : h.Tends p l c) {status : ExitStatus}
    (collecting : c.phase = .collecting status .event) :
    (∃ ending, (h.lookAtOutput c).phase = .finished ending) ∨
      h.Attends p l (h.lookAtOutput c) := by
  cases output : h.machine.output? p with
  | some pieces =>
    left
    have read := capture_glance_of_some tends.process output
    refine ⟨.completed status (readLines pieces), ?_⟩
    simp [Host.lookAtOutput, read, ActiveCall.look, collecting,
      CallPhase.look_collecting_of_lines _ _ read]
  | none =>
    have pending := capture_glance_of_none tends.process output
    cases timed : l.timeout with
    | none =>
      have same : h.lookAtOutput c = c := by
        simp [Host.lookAtOutput, pending, tends.limits,
          Limits.isUnbounded_of_none timed tends.cancellable]
      rw [same]
      exact .inr (tends.attends_of_busy timed ⟨tends.there, output⟩)
    | some limit =>
      obtain ⟨limit, deadline⟩ := limit
      have bounded := Limits.isUnbounded_of_some timed
      by_cases soon : h.machine.now < c.nextLook
      · have same : h.lookAtOutput c = c := by simp [Host.lookAtOutput, pending, soon]
        rw [same]
        exact .inr (tends.attends_of_soon timed soon)
      · have looked : h.lookAtOutput c = c.look (h.glance c) := by
          simp [Host.lookAtOutput, pending, tends.limits, bounded, soon]
        have phase : (c.look (h.glance c)).phase =
            (if deadline ≤ h.machine.now then some (Failure.timedOut limit) else none).elim
              (.collecting status .event) fun failure => .finished (.failed failure) := by
          rw [ActiveCall.look, collecting, tends.limits,
            CallPhase.look_collecting status bounded pending,
            Limits.check_of_some timed tends.cancellable]
          rfl
        rw [looked]
        by_cases late : deadline ≤ h.machine.now
        · rw [if_pos late] at phase
          exact .inl ⟨_, phase⟩
        · rw [if_neg late] at phase
          have goesOn := tends.look_of_phase (.inr ⟨status, phase⟩) (by simp [timed])
          exact .inr (goesOn.attends_of_early timed (by omega))

/-- A look at a call ends it, or finds that it is given up, or the call is attended to. -/
theorem Tends.look (tends : h.Tends p l c) :
    (∃ ending, (h.look c).phase = .finished ending) ∨
      (∃ failure, (h.look c).phase = .killing failure) ∨ h.Attends p l (h.look c) := by
  rcases tends.phase with waiting | ⟨status, collecting⟩
  · by_cases soon : h.machine.now < c.nextLook
    · have same : h.look c = c := by simp [Host.look, waiting, soon]
      rw [same]
      cases timed : l.timeout with
      | none => exact absurd (tends.untimed timed waiting) (by omega)
      | some limit => exact .inr (.inr (tends.attends_of_soon timed soon))
    cases ended : h.machine.status? p with
    | some status =>
      -- The end of the client is found, and the look goes on to its output.
      have ended := exit_glance_of_some tends.process ended
      have phase : (c.look (h.glance c)).phase = .collecting status .event := by
        rw [ActiveCall.look, waiting]
        exact CallPhase.look_waiting_of_ended _ ended
      have looked : h.look c = h.lookAtOutput (c.look (h.glance c)) := by
        simp [Host.look, waiting, soon, ended, phase]
      have goesOn := tends.look_of_phase (.inr ⟨status, phase⟩) (by simp [phase])
      rw [looked]
      exact (goesOn.lookAtOutput phase).imp_right .inr
    | none =>
      have pending := exit_glance_of_none tends.process ended
      cases timed : l.timeout with
      | none =>
        have same : h.look c = c := by
          simp [Host.look, waiting, soon, pending, tends.limits,
            Limits.isUnbounded_of_none timed tends.cancellable]
        rw [same]
        exact .inr (.inr (tends.attends_of_busy timed (Runs.busy ⟨tends.there, ended⟩)))
      | some limit =>
        obtain ⟨limit, deadline⟩ := limit
        have bounded := Limits.isUnbounded_of_some timed
        have phase : (c.look (h.glance c)).phase =
            (if deadline ≤ h.machine.now then some (Failure.timedOut limit) else none).elim
              (.waiting .event) .killing := by
          rw [ActiveCall.look, waiting, tends.limits, CallPhase.look_waiting bounded pending,
            Limits.check_of_some timed tends.cancellable]
          rfl
        have looked : h.look c = c.look (h.glance c) := by
          by_cases late : deadline ≤ h.machine.now <;>
            simp [Host.look, waiting, soon, pending, tends.limits, bounded, phase, late]
        rw [looked]
        by_cases late : deadline ≤ h.machine.now
        · rw [if_pos late] at phase
          exact .inr (.inl ⟨_, phase⟩)
        · rw [if_neg late] at phase
          have goesOn := tends.look_of_phase (.inl phase) (by simp [timed])
          exact .inr (.inr (goesOn.attends_of_early timed (by omega)))
  · have looked : h.look c = h.lookAtOutput c := by simp [Host.look, collecting]
    rw [looked]
    exact (tends.lookAtOutput collecting).imp_right .inr

/-! ### The end of a look -/

theorem isSome_result_of_finished {ending : CallEnding} (finished : c.phase = .finished ending)
    (open_ : c.result = none) : (h.concludeCall c).2.result.isSome = true := by
  simp [concludeCall, stopClient, finished, ActiveCall.conclude_of_finished finished open_]

theorem isSome_status?_kill {m : Machine} (there : p < m.processes.length) :
    ((m.kill p).status? p).isSome = true := by
  simp only [Machine.kill, Machine.status?, List.getElem?_modify_eq,
    List.getElem?_eq_getElem there, Option.map_eq_map, Option.map_some, Option.bind_some]
  split
  · assumption
  · rfl

/-- The client of a call that is given up is killed, and the call gets its result. -/
theorem isSome_result_of_killing {failure : Failure} (killing : c.phase = .killing failure)
    (open_ : c.result = none) (started : c.process = some p)
    (there : p < h.machine.processes.length) : (h.concludeCall c).2.result.isSome = true := by
  let k : Host := { h with machine := h.machine.kill p }
  obtain ⟨status, killed⟩ := Option.isSome_iff_exists.1 (isSome_status?_kill there)
  have stopped : h.stopClient c = (k, (c.advance (k.glance c)).advance (k.glance c)) := by
    simp [stopClient, killing, started, k]
  have finished : ((c.advance (k.glance c)).advance (k.glance c)).phase =
      .finished (.failed failure) := by
    simp [ActiveCall.advance, killing, CallPhase.step, CallPhase.awaitKilled,
      exit_glance_of_some (h := k) started killed]
  simp [concludeCall, stopped, ActiveCall.conclude_of_finished finished open_]

theorem Attends.concludeCall (attends : h.Attends p l c) : h.concludeCall c = (h, c) := by
  have open_ := attends.tends.result
  rcases attends.tends.phase with phase | ⟨status, phase⟩ <;>
    simp [Host.concludeCall, stopClient, ActiveCall.conclude, phase, open_]

/-- Behind a look a call has its result, or it is attended to. -/
theorem Tends.concludeCall_look (tends : h.Tends p l c) :
    (h.concludeCall (h.look c)).2.result.isSome = true ∨
      ∃ c', h.concludeCall (h.look c) = (h, c') ∧ h.Attends p l c' := by
  obtain ⟨phase, nextLook, looked⟩ := h.exists_look_eq c
  have open_ : (h.look c).result = none := by rw [looked]; exact tends.result
  have started : (h.look c).process = some p := by rw [looked]; exact tends.process
  rcases tends.look with ⟨ending, finished⟩ | ⟨failure, killing⟩ | attends
  · exact .inl (isSome_result_of_finished finished open_)
  · exact .inl (isSome_result_of_killing killing open_ started tends.there)
  · exact .inr ⟨h.look c, attends.concludeCall, attends⟩

/-- In its turn a call gets its result, or it is attended to. -/
theorem Tends.advanceCall (tends : h.Tends p l c) :
    (h.advanceCall c).2.result.isSome = true ∨
      ∃ c', h.advanceCall c = (h, c') ∧ h.Attends p l c' := by
  have looked : h.advanceCall c = h.concludeCall (h.look c) := by
    rcases tends.phase with phase | ⟨status, phase⟩ <;> simp [Host.advanceCall, phase]
  rw [looked]
  exact tends.concludeCall_look

/-! ### The begin of a call -/

/-- A call that has come to its end is not looked at, and gets its result. -/
theorem isSome_result_of_ended (open_ : c.result = none)
    (ended : (∃ ending, c.phase = .finished ending) ∨ ∃ abort, c.phase = .aborted abort) :
    (h.concludeCall (h.look c)).2.result.isSome = true := by
  rcases ended with ⟨ending, phase⟩ | ⟨abort, phase⟩ <;>
    simp [Host.look, Host.concludeCall, stopClient, ActiveCall.conclude, phase, open_]

/-- A call whose client is started is under way, with the limits of its request. -/
theorem tends_launched {r : CallRequest} (there : p < h.machine.processes.length)
    (token : r.token = none)
    (starting : (ActiveCall.new r).startingLimits h.machine.now = .ok l) :
    h.Tends p l ((ActiveCall.new r).launched .started (some p) h.machine.now) where
  result := rfl
  process := rfl
  there := there
  limits := by simp [ActiveCall.launched, starting, Except.toOption]
  cancellable := by
    obtain ⟨hl, -⟩ := Limits.starting_eq_ok_iff.1 starting
    simp [hl, ActiveCall.new, token]
  phase := .inl (by simp [ActiveCall.launched, CallPhase.ofLaunch, starting])
  timed _ _ := .inr (Nat.le_refl _)
  untimed _ _ := Nat.le_refl _

/-- A call begins on the host behind its launch. -/
theorem beginCall_of_launched {r : CallRequest} {launch : LaunchResult} {process : Option Nat}
    (launched : h.launchClient r.client r.command = (launch, process, k)) :
    h.beginCall (.new r) = k.concludeCall
      (k.look ((ActiveCall.new r).launched launch process k.machine.now)) := by
  simp only [beginCall, ActiveCall.new, launched]

/-- When a call is begun it gets its result, or it is attended to. Then it has the limits of its
request. -/
theorem attends_beginCall (h : Host) {r : CallRequest} (token : r.token = none) :
    (h.beginCall (.new r)).2.result.isSome = true ∨
      ∃ p l, (ActiveCall.new r).startingLimits h.machine.now = .ok l ∧
        (h.beginCall (.new r)).1.Attends p l (h.beginCall (.new r)).2 := by
  cases found : lookUpProgram h.machine.files h.directory h.environment
      r.client.options.program with
  | none =>
    have launched : h.launchClient r.client r.command = (.notFound, none, h) := by
      simp only [launchClient, found]
    rw [beginCall_of_launched launched]
    exact .inl (isSome_result_of_ended rfl (.inl ⟨_, rfl⟩))
  | some path =>
    cases started : (r.client.launch path r.command).start h.machine.files h.directory
        h.environment with
    | error error =>
      have launched : h.launchClient r.client r.command = (.refused error, none, h) := by
        simp only [launchClient, found, started]
      rw [beginCall_of_launched launched]
      exact .inl (isSome_result_of_ended rfl (.inl ⟨_, rfl⟩))
    | ok image =>
      let machine := (h.machine.spawn image
        ((r.client.launch path r.command).errors == .inherited)).2
      have launched : h.launchClient r.client r.command =
          (.started, some h.machine.processes.length, { h with machine }) := by
        simp only [launchClient, found, started]
        rfl
      rw [beginCall_of_launched launched]
      cases starting : (ActiveCall.new r).startingLimits h.machine.now with
      | error abort =>
        refine .inl (isSome_result_of_ended rfl (.inr ⟨abort, ?_⟩))
        simp [ActiveCall.launched, CallPhase.ofLaunch, machine, Machine.spawn, starting]
      | ok l =>
        have there : h.machine.processes.length < machine.processes.length := by
          simp [machine, Machine.spawn]
        have tends := tends_launched (h := { h with machine }) there token starting
        refine tends.concludeCall_look.imp_right ?_
        rintro ⟨c, same, attends⟩
        exact ⟨_, l, rfl, by rw [same]; exact attends⟩

/-! ### Waits -/

theorem output?_spawn {m : Machine} (there : p < m.processes.length) (image : Image)
    (sharesErrors : Bool) : (m.spawn image sharesErrors).2.output? p = m.output? p := by
  simp [Machine.spawn, Machine.output?, List.getElem?_append_left there]

theorem Attends.frame (attends : h.Attends p l c) (now : k.machine.now = h.machine.now)
    (processes : h.machine.processes.length ≤ k.machine.processes.length)
    (output : k.machine.output? p = h.machine.output? p) : k.Attends p l c where
  tends := attends.tends.of_le (Nat.le_of_eq now.symm) processes
  busy untimed := ⟨Nat.lt_of_lt_of_le attends.tends.there processes,
    output.trans (attends.busy untimed).output⟩
  early t timed := now ▸ attends.early t timed

theorem Attends.supervise (attends : h.Attends p l c) : h.supervise.Attends p l c := by
  refine attends.frame h.now_supervise ?_ ?_ <;>
    rcases h.machine_supervise with same | ⟨image, spawned⟩
  · simp [same]
  · simp [spawned, Machine.spawn]
  · rw [same]
  · rw [spawned]
    exact output?_spawn attends.tends.there image true

/-- The last call of a host has its result, or it is attended to. -/
def TendsLast (p : Nat) (l : Limits) (n : Nat) (h : Host) : Prop :=
  ∃ before c, h.calls = before ++ [c] ∧ before.length = n ∧
    (c.result.isSome = true ∨ h.Attends p l c)

/-- In a tick the last call gets its result, or it is attended to. -/
theorem TendsLast.tick {n : Nat} (last : TendsLast p l n h) (going : isOver n h = false) :
    TendsLast p l n h.tick := by
  obtain ⟨before, c, calls, rfl, tended⟩ := last
  have attends : h.Attends p l c :=
    tended.resolve_left (by simpa [isOver, callResult?, calls] using going)
  let rung := { h with machine := h.machine.tick }.ringAlarms
  let k := (rung.advanceCalls before).1
  have rungCalls : rung.calls = before ++ [c] := by simpa [rung] using calls
  have beside : Beside { h with machine := h.machine.tick } k :=
    (beside_ringAlarms _).trans (beside_advanceCalls _ _)
  have tends : k.Tends p l c := by
    refine attends.tends.of_le ?_ ?_
    · rw [beside.now, Machine.now_tick]
      exact Nat.le_add_right _ _
    · rw [← Machine.length_processes_tick]
      exact beside.processes
  have htick : h.tick = { (k.advanceCall c).1 with
      calls := (rung.advanceCalls before).2 ++ [(k.advanceCall c).2] }.supervise := by
    have advanced := rung.advanceCalls_append before [c]
    simp only [Host.tick]
    rw [show ({ h with machine := h.machine.tick } : Host).ringAlarms = rung from rfl, rungCalls,
      advanced]
    rfl
  have length : (rung.advanceCalls before).2.length = before.length := length_advanceCalls _ _
  refine ⟨(rung.advanceCalls before).2, (k.advanceCall c).2, ?_, length, ?_⟩
  · rw [htick, calls_supervise]
  · refine tends.advanceCall.imp_right ?_
    rintro ⟨c', same, attends⟩
    rw [htick, same]
    have stays : ({ k with calls := (rung.advanceCalls before).2 ++ [c'] } : Host).Attends p l c' :=
      attends.frame rfl (Nat.le_refl _) rfl
    exact stays.supervise

theorem TendsLast.waitUntil {n : Nat} (last : TendsLast p l n h) (ticks : Nat) :
    TendsLast p l n (h.waitUntil (isOver n) ticks) :=
  waitUntil_induction (motive := TendsLast p l n) (fun _ last going => last.tick going) ticks h last

theorem TendsLast.attends {n : Nat} (last : TendsLast p l n h) (going : isOver n h = false) :
    ∃ c, h.Attends p l c := by
  obtain ⟨before, c, calls, rfl, tended⟩ := last
  exact ⟨c, tended.resolve_left (by simpa [isOver, callResult?, calls] using going)⟩

theorem withPatience_withCall (n : Nat) (h : Host) (r : CallRequest) :
    (h.withPatience n).withCall r = (h.withCall r).withPatience n := by
  simp only [withCall, withPatience_beginCall]
  rfl

/-- A call that is waited for with a patience has what a wait of as many ticks brings. -/
theorem execute_withPatience (h : Host) (client : Client) (sink : Sink) (command : Command)
    (n : Nat) :
    let waited := (h.withCall ⟨client, command, sink, none⟩).waitUntil (isOver h.calls.length) n
    (h.withPatience n).execute client sink command none =
      ((waited.callResult? h.calls.length).getD (.error .unending), waited.withPatience n) := by
  intro waited
  have blind (k : Host) : isOver h.calls.length (k.withPatience n) = isOver h.calls.length k := rfl
  have same := withPatience_waitUntil n blind n (h.withCall ⟨client, command, sink, none⟩)
  rw [execute_eq, withPatience_withCall, join]
  change ((((h.withCall _).withPatience n).waitUntil (isOver h.calls.length) n).callResult? _
    |>.getD _, ((h.withCall _).withPatience n).waitUntil (isOver h.calls.length) n) = _
  rw [same]
  rfl

/-- A call that is waited for has one result for every patience that is large enough, or it has no
time of its own and its client is busy for ever. -/
theorem settles_or_lasts_execute (h : Host) (client : Client) (sink : Sink) (command : Command) :
    let run := fun n => (h.withPatience n).execute client sink command none
    Settles run ∨ (client.options.timeout = none ∧ ∃ p, Lasts run fun k => k.Busy p) := by
  intro run
  let r : CallRequest := ⟨client, command, sink, none⟩
  let waited (n : Nat) := (h.withCall r).waitUntil (isOver h.calls.length) n
  have hrun (n : Nat) : run n = (((waited n).callResult? h.calls.length).getD (.error .unending),
      (waited n).withPatience n) := h.execute_withPatience client sink command n
  by_cases ended : ∃ n, isOver h.calls.length (waited n) = true
  · left
    obtain ⟨least, ended⟩ := ended
    obtain ⟨result, given⟩ := Option.isSome_iff_exists.1 ended
    obtain ⟨c, there, ends⟩ : ∃ c, (waited least).calls[h.calls.length]? = some c ∧
        c.EndsFor r h.machine.now :=
      exists_getElem?_waitUntil (ActiveCall.keeps_endsFor r _)
        ⟨_, by simp [withCall], h.endsFor_beginCall r⟩ _ _
    have own : c.result = some result := by
      rwa [callResult?, there, Option.bind_some] at given
    refine ⟨least, result, waited least, ends.result_ne_unending own, fun n enough => ?_⟩
    have same : waited n = waited least := waitUntil_of_le enough ended
    rw [hrun, same, given]
    rfl
  · right
    have going (n : Nat) : isOver h.calls.length (waited n) = false := by
      simpa using fun done => ended ⟨n, done⟩
    obtain ⟨p, l, limits, attends⟩ := (h.attends_beginCall (r := r) rfl).resolve_left
      (by simpa [isOver, callResult?, waited, withCall, Host.waitUntil] using going 0)
    have last : TendsLast p l h.calls.length (h.withCall r) :=
      ⟨h.calls, _, rfl, rfl, .inr (attends.frame rfl (Nat.le_refl _) rfl)⟩
    have timeout : l.timeout =
        client.options.timeout.map fun limit => (limit, h.machine.now + limit.nanos) := by
      rw [(Limits.starting_eq_ok_iff.1 limits).1]
      rfl
    have untimed : client.options.timeout = none := by
      cases timed : client.options.timeout with
      | none => rfl
      | some limit =>
        -- The time of the call is over behind as many ticks as it has nanoseconds.
        let deadline := h.machine.now + limit.nanos
        obtain ⟨c, attends⟩ := (last.waitUntil deadline).attends (going deadline)
        have early := attends.early (limit, deadline) (by simp [timeout, timed, deadline])
        have passed := (done_or_now_waitUntil (isOver h.calls.length) deadline
          (h.withCall r)).resolve_left (Bool.eq_false_iff.1 (going deadline))
        have long : deadline ≤ deadline * Machine.tickLength :=
          Nat.le_mul_of_pos_right _ (by decide)
        omega
    refine ⟨untimed, p, 0, fun n _ => ⟨(waited n).withPatience n, ?_, ?_⟩⟩
    · have none_ : (waited n).callResult? h.calls.length = none := by
        simpa [isOver] using going n
      rw [hrun, none_]
      rfl
    · obtain ⟨c, attends⟩ := (last.waitUntil n).attends (going n)
      obtain ⟨there, output⟩ := attends.busy (by simp [timeout, untimed])
      exact ⟨there, output⟩

end Host

/-! ### Sessions -/

namespace Session

variable {f : Front}

/-- A reading of lines by a host has one result for every patience that is large enough, or one of
its clients is busy for ever. -/
theorem settles_or_lasts_perform (r : Reading) (p : Progress Host) (lines : List (List UInt8)) :
    let run := fun n =>
      r.perform (Host.ask f) f.json { p with state := p.state.withPatience n } lines
    Host.Settles run ∨
      (f.client.options.timeout = none ∧ ∃ process, Host.Lasts run fun k => k.Busy process) := by
  obtain ⟨turns, fault, count⟩ := r
  induction turns generalizing p with
  | nil =>
    exact .inl ⟨0, .ok (p.exchange (fault.map .io) (lines.drop count)), p.state, by simp,
      fun _ _ => rfl⟩
  | cons turn rest ih =>
    cases turn with
    | prompt words => exact ih (p.write words)
    | say line => exact ih (p.writeLine line)
    | call command =>
      intro run
      rcases p.state.settles_or_lasts_execute f.client f.sink command with
        ⟨least, abort | outcome, k, ends, settled⟩ | ⟨untimed, process, least, lasting⟩
      · refine .inl ⟨least, .error abort, k, by simpa using ends, fun n enough => ?_⟩
        have asked : Host.ask f (p.state.withPatience n) command = _ := settled n enough
        simp only [run, Reading.perform, Progress.play, Progress.call, asked]
      · let q : Progress Host := ⟨k, outcome.line f.json :: p.written, p.calls + 1⟩
        have same (n : Nat) (enough : least ≤ n) : run n =
            (Reading.mk rest fault count).perform (Host.ask f) f.json
              { q with state := q.state.withPatience n } lines := by
          have asked : Host.ask f (p.state.withPatience n) command = _ := settled n enough
          simp only [run, Reading.perform, Progress.play, Progress.call, asked, q]
        refine (ih q).imp (fun settles => settles.congr same) ?_
        rintro ⟨untimed, process, lasts⟩
        exact ⟨untimed, process, lasts.congr same⟩
      · refine .inr ⟨untimed, process, least, fun n enough => ?_⟩
        obtain ⟨k, hk, busy⟩ := lasting n enough
        have asked : Host.ask f (p.state.withPatience n) command = _ := hk
        refine ⟨k, ?_, busy⟩
        simp only [run, Reading.perform, Progress.play, Progress.call, asked]

/-- So it is with the requests of an input. -/
theorem settles_or_lasts_serve (h : Host) (input : List UInt8) :
    let run := fun n => serve (Host.ask f) f.json (h.withPatience n) input
    Host.Settles run ∨
      (f.client.options.timeout = none ∧ ∃ process, Host.Lasts run fun k => k.Busy process) := by
  simp only [serve_eq_perform]
  exact settles_or_lasts_perform _ (.start h) _

/-- So it is with the candidates of an input. -/
theorem settles_or_lasts_serveCandidates (pattern : String) (h : Host) (input : List UInt8) :
    let run := fun n => serveCandidates (Host.ask f) f.json pattern (h.withPatience n) input
    Host.Settles run ∨
      (f.client.options.timeout = none ∧ ∃ process, Host.Lasts run fun k => k.Busy process) := by
  simp only [serveCandidates_eq_perform]
  exact settles_or_lasts_perform _ (.start h) _

end Session

end InspectionHost
