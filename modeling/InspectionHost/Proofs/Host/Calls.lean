import InspectionHost.Host.Front
import InspectionHost.Proofs.Call.Report
import InspectionHost.Proofs.Host.Waiting

/-!
# What calls keep

A host does three things to a call: it launches it, it looks at it, and it ends it. A look sees
the output of a client as lines that are read from the pieces that the client wrote. What a call
keeps through the three, all calls of a host keep for ever.

A call that is waited for has the result of an ending. There are two exceptions: the host gives up
when it has waited as long as it is patient, and a call is aborted where the clock cannot show when
its time is over.

## Main definitions

* `ActiveCall.Keeps` : what a call keeps.
* `Host.withCall` : a host on which a call has begun.
* `CallRequest.Overflows` : the clock cannot show when the time of a call is over.
* `ActiveCall.EndsFor` : a call has begun, and gets the result of an ending.

## Main results

* `ActiveCall.Keeps.tick`, `ActiveCall.Keeps.ask` : all calls of a host keep what a call keeps.
* `Host.exists_call_of_join` : a call that is waited for keeps what a call keeps.
* `Host.result_of_execute` : what a call that is waited for brings.
-/

namespace InspectionHost

/-! ### What a host does to a call -/

/-- The lines that can be seen are read from pieces of output. -/
def Glance.Reads (g : Glance) : Prop :=
  ∀ lines, g.capture = .lines lines → ∃ pieces, lines = readLines pieces

/-- A call keeps something when it is launched, when it is looked at, and when it ends. -/
structure ActiveCall.Keeps (P : ActiveCall → Prop) : Prop where
  launched : ∀ {c : ActiveCall} (launch : LaunchResult) (process : Option Nat) (now : Nat),
    c.phase = .launching → P c → P (c.launched launch process now)
  advance : ∀ {c : ActiveCall} {g : Glance}, g.Reads → P c → P (c.advance g)
  look : ∀ {c : ActiveCall} {g : Glance}, g.Reads → P c → P (c.look g)
  conclude : ∀ {c : ActiveCall}, P c → P c.conclude.2

namespace Host

variable {h : Host} {c : ActiveCall}

theorem reads_glance (h : Host) (c : ActiveCall) : (h.glance c).Reads := by
  intro lines captured
  simp only [glance] at captured
  split at captured
  · next pieces _ => exact ⟨pieces, (Capture.lines.inj captured).symm⟩
  · cases captured

/-- A look changes the phase of a call and the time of its next look, and nothing else. -/
theorem exists_lookAtOutput_eq (h : Host) (c : ActiveCall) :
    ∃ phase nextLook, h.lookAtOutput c = { c with phase, nextLook } := by
  simp only [lookAtOutput]
  split
  · exact ⟨c.phase, c.nextLook, rfl⟩
  · exact ⟨_, _, rfl⟩

theorem exists_look_eq (h : Host) (c : ActiveCall) :
    ∃ phase nextLook, h.look c = { c with phase, nextLook } := by
  unfold look
  split
  · split
    · exact ⟨c.phase, c.nextLook, rfl⟩
    · simp only
      split
      · exact ⟨c.phase, c.nextLook, rfl⟩
      · split
        · obtain ⟨phase, nextLook, looked⟩ := h.exists_lookAtOutput_eq (c.look (h.glance c))
          exact ⟨phase, nextLook, looked⟩
        · exact ⟨_, _, rfl⟩
  · exact h.exists_lookAtOutput_eq c
  · exact ⟨c.phase, c.nextLook, rfl⟩

@[simp] theorem calls_deliverClient (h : Host) (sink : Sink) (ds : List Diagnostic) :
    (h.deliverClient sink ds).calls = h.calls := by
  cases sink <;> rfl

@[simp] theorem calls_deliverServer (h : Host) (sink : Sink) (ds : List Diagnostic) :
    (h.deliverServer sink ds).calls = h.calls := by
  cases sink <;> rfl

@[simp] theorem calls_stopClient (h : Host) (c : ActiveCall) :
    (h.stopClient c).1.calls = h.calls := by
  unfold stopClient
  split <;> rfl

@[simp] theorem calls_concludeCall (h : Host) (c : ActiveCall) :
    (h.concludeCall c).1.calls = h.calls := by
  simp [concludeCall]

@[simp] theorem calls_launchClient (h : Host) (client : Client) (command : Command) :
    (h.launchClient client command).2.2.calls = h.calls := by
  cases found : lookUpProgram h.machine.files h.directory h.environment client.options.program with
  | none => simp only [launchClient, found]
  | some path =>
    cases started : (client.launch path command).start h.machine.files h.directory h.environment <;>
      simp only [launchClient, found, started]

@[simp] theorem calls_beginCall (h : Host) (c : ActiveCall) :
    (h.beginCall c).1.calls = h.calls := by
  simp [beginCall]

@[simp] theorem calls_endSupervision (h : Host) (reported : Reported ServerExit) :
    (h.endSupervision reported).calls = h.calls := by
  simp [endSupervision]

@[simp] theorem calls_supervise (h : Host) : h.supervise.calls = h.calls := by
  unfold supervise
  split
  · split <;> simp [record]
  · split
    · rfl
    · split <;> simp [record]
  · rfl

theorem calls_cancels (alarms : List (Nat × Nat)) (h : Host) :
    (alarms.foldl (fun h alarm => h.cancel alarm.2) h).calls = h.calls := by
  induction alarms generalizing h with
  | nil => rfl
  | cons alarm rest ih => exact ih _

@[simp] theorem calls_ringAlarms (h : Host) : h.ringAlarms.calls = h.calls :=
  calls_cancels _ h

end Host

namespace ActiveCall.Keeps

variable {P : ActiveCall → Prop} {h : Host} {c : ActiveCall}

theorem stopClient (keeps : Keeps P) (start : P c) : P (h.stopClient c).2 := by
  unfold Host.stopClient
  split
  · exact keeps.advance (Host.reads_glance _ _) (keeps.advance (Host.reads_glance _ _) start)
  · exact start

theorem concludeCall (keeps : Keeps P) (start : P c) : P (h.concludeCall c).2 :=
  keeps.conclude (keeps.stopClient start)

theorem lookAtOutput (keeps : Keeps P) (start : P c) : P (h.lookAtOutput c) := by
  simp only [Host.lookAtOutput]
  split
  · exact start
  · exact keeps.look (Host.reads_glance _ _) start

theorem hostLook (keeps : Keeps P) (start : P c) : P (h.look c) := by
  have looked : P (c.look (h.glance c)) := keeps.look (Host.reads_glance _ _) start
  unfold Host.look
  split
  · split
    · exact start
    · simp only
      split
      · exact start
      · split
        · exact keeps.lookAtOutput looked
        · exact looked
  · exact keeps.lookAtOutput start
  · exact start

theorem beginCall (keeps : Keeps P) (unlaunched : c.phase = .launching) (start : P c) :
    P (h.beginCall c).2 :=
  keeps.concludeCall (keeps.hostLook (keeps.launched _ _ _ unlaunched start))

theorem advanceCall (keeps : Keeps P) (start : P c) : P (h.advanceCall c).2 := by
  unfold Host.advanceCall
  split
  · next unlaunched => exact keeps.beginCall unlaunched start
  · exact keeps.concludeCall (keeps.hostLook start)

theorem advanceCalls (keeps : Keeps P) {cs : List ActiveCall} (start : ∀ c ∈ cs, P c) :
    ∀ c ∈ (h.advanceCalls cs).2, P c := by
  induction cs generalizing h with
  | nil => simp [Host.advanceCalls]
  | cons c rest ih =>
    obtain ⟨first, later⟩ := List.forall_mem_cons.1 start
    have hcons : (h.advanceCalls (c :: rest)).2 =
        (h.advanceCall c).2 :: ((h.advanceCall c).1.advanceCalls rest).2 := by
      rw [Host.advanceCalls]
    rw [hcons]
    exact List.forall_mem_cons.2 ⟨keeps.advanceCall first, ih later⟩

/-- In a tick all calls keep what a call keeps. -/
theorem tick (keeps : Keeps P) (start : ∀ c ∈ h.calls, P c) : ∀ c ∈ h.tick.calls, P c := by
  intro c hc
  simp only [Host.tick, Host.calls_supervise, Host.calls_ringAlarms] at hc
  exact keeps.advanceCalls start c hc

theorem waitUntil (keeps : Keeps P) (start : ∀ c ∈ h.calls, P c) (done : Host → Bool)
    (ticks : Nat) : ∀ c ∈ (h.waitUntil done ticks).calls, P c :=
  Host.waitUntil_induction (motive := fun h => ∀ c ∈ h.calls, P c)
    (fun _ start _ => keeps.tick start) ticks h start

end ActiveCall.Keeps

/-! ### Calls that are waited for -/

namespace Host

variable {P : ActiveCall → Prop} {h : Host} {r : CallRequest}

/-- A host on which a call has begun, as the last of its calls. -/
def withCall (h : Host) (r : CallRequest) : Host :=
  { (h.beginCall (.new r)).1 with calls := h.calls ++ [(h.beginCall (.new r)).2] }

/-- Whether a call is over. -/
def isOver (call : Nat) (h : Host) : Bool :=
  (h.callResult? call).isSome

theorem execute_eq (h : Host) (client : Client) (sink : Sink) (command : Command)
    (token : Option Nat) : h.execute client sink command token =
      (h.withCall ⟨client, command, sink, token⟩).join h.calls.length := by
  simp only [execute, addCall, withCall, calls_beginCall]

theorem patience_withCall (h : Host) (r : CallRequest) : (h.withCall r).patience = h.patience := by
  have same := congrArg (fun begun => begun.1.patience)
    (withPatience_beginCall h.patience h (.new r))
  exact same

theorem now_withCall (h : Host) (r : CallRequest) :
    (h.withCall r).machine.now = h.machine.now :=
  (h.beside_beginCall (.new r)).now

/-- In a tick the clients of all calls come first, each in its turn. -/
theorem advanceCalls_append (h : Host) (before after : List ActiveCall) :
    h.advanceCalls (before ++ after) =
      (((h.advanceCalls before).1.advanceCalls after).1,
        (h.advanceCalls before).2 ++ ((h.advanceCalls before).1.advanceCalls after).2) := by
  induction before generalizing h with
  | nil => rfl
  | cons c rest ih => simp only [List.cons_append, advanceCalls, ih]

theorem length_advanceCalls (cs : List ActiveCall) (h : Host) :
    (h.advanceCalls cs).2.length = cs.length := by
  induction cs generalizing h with
  | nil => rfl
  | cons c rest ih => simp only [advanceCalls, List.length_cons, ih]

theorem exists_getElem?_advanceCalls (keeps : ActiveCall.Keeps P) {cs : List ActiveCall} {n : Nat}
    (start : ∃ c, cs[n]? = some c ∧ P c) :
    ∃ c, (h.advanceCalls cs).2[n]? = some c ∧ P c := by
  induction cs generalizing h n with
  | nil => simp at start
  | cons first rest ih =>
    cases n with
    | zero =>
      obtain ⟨c, there, kept⟩ := start
      obtain rfl := Option.some.inj there
      exact ⟨(h.advanceCall first).2, rfl, keeps.advanceCall kept⟩
    | succ n => exact ih start

theorem exists_getElem?_waitUntil (keeps : ActiveCall.Keeps P) {n : Nat}
    (start : ∃ c, h.calls[n]? = some c ∧ P c) (done : Host → Bool) (ticks : Nat) :
    ∃ c, (h.waitUntil done ticks).calls[n]? = some c ∧ P c := by
  refine waitUntil_induction (motive := fun h => ∃ c, h.calls[n]? = some c ∧ P c)
    (fun h start _ => ?_) ticks h start
  simp only [tick, calls_supervise]
  exact exists_getElem?_advanceCalls keeps (by simpa using start)

/-- A call that is waited for brings its result, or has none when the host gives up. It keeps what a
call keeps; what becomes of other calls plays no part in it. -/
theorem exists_call_of_join (keeps : ActiveCall.Keeps P) {n : Nat}
    (start : ∃ c, h.calls[n]? = some c ∧ P c) :
    ((h.join n).1 = .error .unending ∧ h.Waited (h.join n).2) ∨
      ∃ c, P c ∧ c.result = some (h.join n).1 := by
  let waited := h.waitUntil (isOver n) h.patience
  obtain ⟨c, there, kept⟩ : ∃ c, waited.calls[n]? = some c ∧ P c :=
    exists_getElem?_waitUntil keeps start _ _
  have own : waited.callResult? n = c.result := by rw [callResult?, there, Option.bind_some]
  have answer : h.join n = (c.result.getD (.error .unending), waited) := by
    rw [← own]
    rfl
  rw [answer]
  cases given : c.result with
  | none =>
    have passed := (done_or_now_waitUntil (isOver n) h.patience h).resolve_left
      (by simp [isOver, show (h.waitUntil (isOver n) h.patience).callResult? n = none from
        own.trans given])
    exact .inl ⟨rfl, Nat.le_of_eq passed.symm⟩
  | some result => exact .inr ⟨c, kept, given⟩

end Host

/-- To ask the client is to wait for a call that keeps what the others keep: its result is the
answer, unless the host gives up. -/
theorem ActiveCall.Keeps.ask {P : ActiveCall → Prop} {h : Host} (keeps : Keeps P)
    (start : ∀ c ∈ h.calls, P c) (f : Front) (command : Command)
    (new : P (.new ⟨f.client, command, f.sink, none⟩)) :
    (∀ c ∈ (h.ask f command).2.calls, P c) ∧
      ((h.ask f command).1 = .error .unending ∨
        ∃ c, P c ∧ c.result = some (h.ask f command).1) := by
  let r : CallRequest := ⟨f.client, command, f.sink, none⟩
  have asked : h.ask f command = (h.withCall r).join h.calls.length :=
    h.execute_eq f.client f.sink command none
  have begun : P (h.beginCall (.new r)).2 := keeps.beginCall rfl new
  have calls : ∀ c ∈ (h.withCall r).calls, P c := fun c there =>
    (List.mem_append.1 there).elim (start c) fun last => List.mem_singleton.1 last ▸ begun
  have last : ∃ c, (h.withCall r).calls[h.calls.length]? = some c ∧ P c :=
    ⟨_, by simp [Host.withCall], begun⟩
  rw [asked]
  exact ⟨keeps.waitUntil calls _ _, (Host.exists_call_of_join keeps last).imp_left And.left⟩

/-! ### Ends of calls -/

/-- The clock cannot show when the time of a call is over that begins at a reading of the clock. -/
def CallRequest.Overflows (r : CallRequest) (now : Nat) : Prop :=
  ∃ limit, r.client.options.timeout = some limit ∧ Clock.limit ≤ now + limit.nanos

/-- A call has begun at a reading of the clock, for a request. Its result is that of some ending,
unless the clock could not show when its time is over. -/
structure ActiveCall.EndsFor (r : CallRequest) (now : Nat) (c : ActiveCall) : Prop where
  request : c.toCallRequest = r
  begun : c.phase ≠ .launching
  aborted : ∀ abort, c.phase = .aborted abort → abort = .clockOverflow ∧ r.Overflows now
  result : ∀ result, c.result = some result →
    (∃ ending : CallEnding,
      result = (ending.conclude r.sink r.client.options.program r.command).result) ∨
    (result = .error .clockOverflow ∧ r.Overflows now)

namespace CallPhase

variable {l : Limits} {p : CallPhase} {g : Glance}

theorem aborted_of_step {abort : Abort} (aborted : p.step l g = .aborted abort) :
    p = .aborted abort := by
  cases p with
  | aborted abort' => exact aborted
  | waiting stage =>
    rcases awaitExit_cases l stage g with ⟨_, -, -, h⟩ | ⟨_, -, -, h⟩ |
      ⟨-, ⟨_, -, h⟩ | ⟨_, -, h⟩⟩ <;> simp [step, h] at aborted
  | collecting status stage =>
    rcases awaitLines_cases l status stage g with ⟨_, -, -, h⟩ | ⟨_, -, -, -, h⟩ |
      ⟨-, ⟨_, -, h⟩ | ⟨_, -, h⟩⟩ <;> simp [step, h] at aborted
  | reaping failure =>
    simp only [step, awaitKilled] at aborted
    split at aborted <;> simp at aborted
  | launching | killing failure | finished ending => simp [step] at aborted

theorem look_induction {motive : CallPhase → Prop}
    (step : ∀ p : CallPhase, motive p → motive (p.step l g)) (start : motive p) :
    motive (p.look l g) := by
  have on (steps : Nat) : ∀ p : CallPhase, motive p → motive (p.lookOn l g steps) := by
    induction steps with
    | zero => exact fun _ start => start
    | succ steps ih =>
      intro p start
      rw [lookOn]
      split
      · exact ih _ (step p start)
      · exact start
  exact on 2 _ (step p start)

end CallPhase

namespace ActiveCall

variable {r : CallRequest} {now : Nat} {c : ActiveCall}

/-- A call gets its result when it ends. -/
theorem keeps_endsFor (r : CallRequest) (now : Nat) : Keeps (EndsFor r now) where
  launched _ _ _ unlaunched ends := (ends.begun unlaunched).elim
  advance _ ends := ⟨ends.request, CallPhase.step_ne_launching ends.begun _ _,
    fun abort aborted => ends.aborted abort (CallPhase.aborted_of_step aborted), ends.result⟩
  look {c g} _ ends := by
    refine ⟨ends.request, ?_, ?_, ends.result⟩
    · exact CallPhase.look_induction (motive := (· ≠ .launching))
        (fun _ begun => CallPhase.step_ne_launching begun _ _) ends.begun
    · refine CallPhase.look_induction (motive := fun p => ∀ abort, p = .aborted abort →
        abort = .clockOverflow ∧ r.Overflows now) (fun p kept abort aborted => ?_) ends.aborted
      exact kept abort (CallPhase.aborted_of_step aborted)
  conclude {c} ends := by
    refine ⟨(toCallRequest_conclude c).trans ends.request, by simpa using ends.begun,
      by simpa using ends.aborted, fun result given => ?_⟩
    unfold ActiveCall.conclude at given
    split at given
    · next ending _ _ =>
      obtain rfl := ends.request
      exact .inl ⟨ending, (Option.some.inj given).symm⟩
    · next abort _ aborted =>
      obtain ⟨rfl, overflows⟩ := ends.aborted abort aborted
      exact .inr ⟨(Option.some.inj given).symm, overflows⟩
    · exact ends.result result given

/-- A call with a result has come to an end. -/
theorem EndsFor.result_ne_unending (ends : c.EndsFor r now) {result : Except Abort Outcome}
    (given : c.result = some result) : result ≠ .error .unending := by
  rcases ends.result result given with ⟨ending, rfl⟩ | ⟨rfl, -⟩
  · cases reported : ending.diagnostic? r.client.options.program r.command <;>
      cases sink : r.sink <;>
      simp [CallEnding.conclude, reported, Sink.reportAll, Sink.report, bind, Reported.bind, pure,
        Reported.pure]
  · simp

/-- The phase of a call behind its launch is aborted only where the clock overflows. -/
theorem endsFor_launched (r : CallRequest) (launch : LaunchResult) (process : Option Nat)
    (now : Nat) : ((new r).launched launch process now).EndsFor r now := by
  refine ⟨rfl, CallPhase.ofLaunch_ne_launching _ _ _, fun abort aborted => ?_, nofun⟩
  cases launch with
  | started =>
    cases limits : (new r).startingLimits now with
    | ok l => simp [launched, CallPhase.ofLaunch, limits] at aborted
    | error cause =>
      obtain ⟨rfl, overflows⟩ := Limits.starting_eq_error_iff.1 limits
      simp only [launched, CallPhase.ofLaunch, limits, CallPhase.aborted.injEq] at aborted
      exact ⟨aborted.symm, overflows⟩
  | notFound | refused error | uncaptured | unreadable error =>
    simp [launched, CallPhase.ofLaunch] at aborted

end ActiveCall

namespace Host

variable {h : Host}

theorem endsFor_beginCall (h : Host) (r : CallRequest) :
    (h.beginCall (.new r)).2.EndsFor r h.machine.now := by
  have keeps := ActiveCall.keeps_endsFor r h.machine.now
  have now := (h.beside_launchClient r.client r.command).now
  refine keeps.concludeCall (keeps.hostLook ?_)
  exact now ▸ ActiveCall.endsFor_launched r _ _ _

/-- A call that is waited for brings the result of an ending, unless the host gives up or the clock
cannot show when the time of the call is over. -/
theorem result_of_execute (h : Host) (client : Client) (sink : Sink) (command : Command)
    (token : Option Nat) :
    let run := h.execute client sink command token
    (run.1 = .error .unending ∧ h.Waited run.2) ∨
      (∃ ending : CallEnding,
        run.1 = (ending.conclude sink client.options.program command).result) ∨
      (run.1 = .error .clockOverflow ∧
        CallRequest.Overflows ⟨client, command, sink, token⟩ h.machine.now) := by
  intro run
  let r : CallRequest := ⟨client, command, sink, token⟩
  have hrun : run = (h.withCall r).join h.calls.length := h.execute_eq client sink command token
  rw [hrun]
  have begun : ∃ c, (h.withCall r).calls[h.calls.length]? = some c ∧
      c.EndsFor r h.machine.now := ⟨_, by simp [withCall], h.endsFor_beginCall r⟩
  rcases exists_call_of_join (ActiveCall.keeps_endsFor r h.machine.now) begun with
    ⟨unending, waited⟩ | ⟨c, ends, given⟩
  · left
    refine ⟨unending, ?_⟩
    rwa [Waited, now_withCall, patience_withCall] at waited
  · exact .inr (ends.result _ given)

/-- A call whose sink takes diagnostics brings its outcome, unless the host gives up or the clock
cannot show when the time of the call is over. -/
theorem result_of_execute_of_listens {sink : Sink} (listens : sink ≠ .refusing) (h : Host)
    (client : Client) (command : Command) (token : Option Nat) :
    let run := h.execute client sink command token
    (run.1 = .error .unending ∧ h.Waited run.2) ∨
      (∃ ending : CallEnding, run.1 = .ok ending.outcome) ∨
      (run.1 = .error .clockOverflow ∧
        CallRequest.Overflows ⟨client, command, sink, token⟩ h.machine.now) := by
  intro run
  refine (h.result_of_execute client sink command token).imp_right (.imp_left ?_)
  rintro ⟨ending, brought⟩
  exact ⟨ending, by rw [brought, CallEnding.conclude_of_ne_refusing listens]⟩

end Host

end InspectionHost
