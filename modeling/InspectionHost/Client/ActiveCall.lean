import InspectionHost.Client.Call
import InspectionHost.Client.Client

/-!
# Calls under way

A call under way knows who is asked what, where its diagnostics go, its limits and its phase. It
is launched once, goes through its phases step by step, and is concluded once it is over: its
diagnostic is handed to the sink, and its result is fixed.

## Main definitions

* `CallRequest` : what somebody asks for.
* `ActiveCall` : a call under way.
* `ActiveCall.startingLimits` : the limits that a call gets, if they can be made.
* `ActiveCall.launched` : the call behind its launch.
* `ActiveCall.advance`, `ActiveCall.look` : the call behind a step, and behind a whole look.
* `ActiveCall.conclude` : the call with its result, and what is reported for it.
-/

namespace InspectionHost

/-- What somebody asks for: a question to a client, and where its diagnostics go. -/
structure CallRequest where
  client : Client
  command : Command
  sink : Sink
  /-- The token that can cancel the call. -/
  token : Option Nat

/-- A client call, from the time that somebody asks for it. -/
structure ActiveCall extends CallRequest where
  /-- The process of the client, if it was started. -/
  process : Option Nat
  limits : Limits
  phase : CallPhase
  /-- When the limits are looked at next. -/
  nextLook : Nat
  /-- How the call ended, once it is over and reported. -/
  result : Option (Except Abort Outcome)

namespace ActiveCall

/-- A call that has not begun. -/
def new (r : CallRequest) : ActiveCall where
  toCallRequest := r
  process := none
  limits := ⟨none, r.token.isSome⟩
  phase := .launching
  nextLook := 0
  result := none

/-- The limits of a call that is launched at a reading of the clock. -/
def startingLimits (c : ActiveCall) (now : Nat) : Except Abort Limits :=
  Limits.starting c.client.options.timeout c.token.isSome now

/-- The call behind its launch. Its time counts from the given reading of the clock on. -/
def launched (c : ActiveCall) (launch : LaunchResult) (process : Option Nat) (now : Nat) :
    ActiveCall :=
  { c with
    process
    limits := (c.startingLimits now).toOption.getD c.limits
    phase := .ofLaunch c.client.options.program (c.startingLimits now) launch
    nextLook := now }

/-- The call behind a step of its phase. -/
def advance (c : ActiveCall) (g : Glance) : ActiveCall :=
  { c with phase := c.phase.step c.limits g }

/-- The call behind a whole look. The next one is due after a tick. -/
def look (c : ActiveCall) (g : Glance) : ActiveCall :=
  { c with
    phase := c.phase.look c.limits g
    nextLook := g.now + c.limits.tick g.now }

/-- The call with its result if it is over, and what is reported for it. Nothing is reported for a
call that is aborted, and a call that has its result is not reported again. -/
def conclude (c : ActiveCall) : List Diagnostic × ActiveCall :=
  match c.result, c.phase with
  | none, .finished ending =>
    let reported := ending.conclude c.sink c.client.options.program c.command
    (reported.diagnostics, { c with result := some reported.result })
  | none, .aborted abort => ([], { c with result := some (.error abort) })
  | _, _ => ([], c)

theorem conclude_eq (c : ActiveCall) : ∃ result, c.conclude.2 = { c with result } := by
  unfold conclude
  split
  · exact ⟨_, rfl⟩
  · exact ⟨_, rfl⟩
  · exact ⟨c.result, rfl⟩

theorem toCallRequest_conclude (c : ActiveCall) : c.conclude.2.toCallRequest = c.toCallRequest := by
  obtain ⟨result, h⟩ := c.conclude_eq
  rw [h]

@[simp] theorem phase_conclude (c : ActiveCall) : c.conclude.2.phase = c.phase := by
  obtain ⟨result, h⟩ := c.conclude_eq
  rw [h]

@[simp] theorem process_conclude (c : ActiveCall) : c.conclude.2.process = c.process := by
  obtain ⟨result, h⟩ := c.conclude_eq
  rw [h]

@[simp] theorem limits_conclude (c : ActiveCall) : c.conclude.2.limits = c.limits := by
  obtain ⟨result, h⟩ := c.conclude_eq
  rw [h]

theorem conclude_of_finished {c : ActiveCall} {ending : CallEnding}
    (finished : c.phase = .finished ending) (open_ : c.result = none) :
    c.conclude = ((ending.conclude c.sink c.client.options.program c.command).diagnostics,
      { c with
        result := some (ending.conclude c.sink c.client.options.program c.command).result }) := by
  simp [conclude, finished, open_]

theorem conclude_of_aborted {c : ActiveCall} {abort : Abort} (aborted : c.phase = .aborted abort)
    (open_ : c.result = none) : c.conclude = ([], { c with result := some (.error abort) }) := by
  simp [conclude, aborted, open_]

theorem conclude_of_result {c : ActiveCall} (closed : c.result.isSome) : c.conclude = ([], c) := by
  obtain ⟨r, hr⟩ := Option.isSome_iff_exists.1 closed
  simp [conclude, hr]

end ActiveCall

end InspectionHost
