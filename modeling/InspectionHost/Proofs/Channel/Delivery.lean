import InspectionHost.DiagnosticChannel
import Mathlib.Data.List.Induction

/-!
# Every diagnostic is delivered once, in the order of the reports

The handles of a channel come from one another: a handle is cloned, or a shared pointer is put
around it, as often as one likes. All of them can report, and the receiver takes what waits out of
the channel, one diagnostic at a time or all at once. The receiver and the handles are given up
independently of each other. An operation can be made as long as the handle or the receiver that
it is made through is there. While there is a receiver, one operation neither loses nor repeats a
diagnostic: what it hands over and what waits behind it is what waited, and behind that what it
reports.

## Main definitions

* `ChannelOp`, `ChannelAnswer` : the operations, and what they answer.
* `DiagnosticChannel.Admits` : whether an operation can be made.
* `ChannelScene` : a channel, and the answers to the operations so far.
* `ChannelScene.run?` : the scene behind operations, if they can be made one after the other.
* `ChannelScene.Accounted` : the invariant.

## Main results

* `DiagnosticChannel.conserved_perform` : one operation neither loses nor repeats a diagnostic.
* `ChannelScene.Accounted.step`, `ChannelScene.accounted_run` : the invariant holds behind every
  operation.
* `ChannelScene.delivered_of_run` : every diagnostic is delivered once, in the order of the
  reports, through any handle.
-/

namespace InspectionHost

/-- An operation on a channel. A handle is given by its place among the handles. -/
inductive ChannelOp where
  | report (handle : Nat) (d : Diagnostic)
  | clone (handle : Nat)
  /-- Put a shared pointer around a handle. -/
  | share (handle : Nat)
  | tryReceive
  | drain
  | dropReceiver
  | dropHandles
  deriving DecidableEq, Repr

namespace ChannelOp

/-- The diagnostic that an operation reports. -/
def reported? : ChannelOp → Option Diagnostic
  | .report _ d => some d
  | _ => none

/-- Whether an operation makes a handle. -/
def makesHandle : ChannelOp → Bool
  | .clone _ | .share _ => true
  | _ => false

end ChannelOp

/-- The diagnostics that operations report, in their order. -/
def reported (ops : List ChannelOp) : List Diagnostic :=
  ops.filterMap ChannelOp.reported?

/-- What an operation answers. -/
inductive ChannelAnswer where
  | done
  | received (found : DiagnosticChannel.Received)
  | drained (ds : Option (List Diagnostic))
  deriving DecidableEq, Repr

/-- The diagnostics that an answer hands over. -/
def ChannelAnswer.diagnostics : ChannelAnswer → List Diagnostic
  | .received (.diagnostic d) => [d]
  | .drained (some ds) => ds
  | _ => []

namespace DiagnosticChannel

/-- An operation can be made while the handle or the receiver that it is made through is there. -/
def Admits (ch : DiagnosticChannel) : ChannelOp → Prop
  | .report handle _ | .clone handle | .share handle => handle < ch.handles.length
  | .tryReceive | .drain | .dropReceiver => ch.receiving = true
  | .dropHandles => True

instance (ch : DiagnosticChannel) : (op : ChannelOp) → Decidable (ch.Admits op)
  | .report handle _ | .clone handle | .share handle =>
    inferInstanceAs (Decidable (handle < ch.handles.length))
  | .tryReceive | .drain | .dropReceiver => inferInstanceAs (Decidable (ch.receiving = true))
  | .dropHandles => isTrue trivial

/-- The answer to an operation, and the channel behind it. -/
def perform (ch : DiagnosticChannel) : ChannelOp → ChannelAnswer × DiagnosticChannel
  | .report handle d => (.done, ch.reportAt handle d)
  | .clone handle => (.done, ch.clone handle)
  | .share handle => (.done, ch.share handle)
  | .tryReceive => (.received ch.tryReceive.1, ch.tryReceive.2)
  | .drain => (.drained ch.drain.1, ch.drain.2)
  | .dropReceiver => (.done, ch.dropReceiver)
  | .dropHandles => (.done, ch.dropHandles)

end DiagnosticChannel

/-- A channel, and the answers to the operations so far. -/
structure ChannelScene where
  channel : DiagnosticChannel
  /-- The answers, the oldest first. -/
  answers : List ChannelAnswer
  deriving Repr

namespace ChannelScene

/-- A new channel. -/
def start : ChannelScene := ⟨.new, []⟩

/-- The diagnostics received so far, the oldest first. -/
def received (s : ChannelScene) : List Diagnostic :=
  s.answers.flatMap ChannelAnswer.diagnostics

/-- The scene behind an operation, if it can be made. -/
def step? (s : ChannelScene) (op : ChannelOp) : Option ChannelScene :=
  if s.channel.Admits op then
    some ⟨(s.channel.perform op).2, s.answers ++ [(s.channel.perform op).1]⟩
  else none

/-- The scene behind operations on a new channel, if they can be made one after the other. -/
def run? (ops : List ChannelOp) : Option ChannelScene :=
  ops.foldlM step? start

end ChannelScene

namespace DiagnosticChannel

variable {ch : DiagnosticChannel} {op : ChannelOp} {handle : Nat} {d : Diagnostic}

/-! ### What one operation does -/

theorem exists_reportAt_eq (live : handle < ch.handles.length) :
    ∃ h : SinkHandle, ch.reportAt handle d = ch.report d h :=
  ⟨ch.handles[handle], by simp only [reportAt, List.getElem?_eq_getElem live]⟩

theorem report_of_not_receiving (gone : ch.receiving = false) (h : SinkHandle) :
    ch.report d h = ch := by
  rw [report_eq_direct, report, if_neg (Bool.eq_false_iff.1 gone)]

theorem handles_report (h : SinkHandle) : (ch.report d h).handles = ch.handles := by
  rw [report_eq_direct, report]
  split <;> rfl

theorem handles_reportAt : (ch.reportAt handle d).handles = ch.handles := by
  unfold reportAt
  split
  · exact handles_report _
  · rfl

theorem receiving_reportAt : (ch.reportAt handle d).receiving = ch.receiving := by
  unfold reportAt
  split
  · exact receiving_report _ _ _
  · rfl

theorem clone_of_lt (live : handle < ch.handles.length) :
    ch.clone handle = { ch with handles := ch.handles ++ [ch.handles[handle]] } := by
  simp only [clone, List.getElem?_eq_getElem live]

theorem share_of_lt (live : handle < ch.handles.length) :
    ch.share handle = { ch with handles := ch.handles ++ [.shared ch.handles[handle]] } := by
  simp only [share, List.getElem?_eq_getElem live]

/-- What an attempt to receive finds, while there is a receiver. -/
theorem tryReceive_of_receiving (there : ch.receiving = true) :
    ch.tryReceive.1 = match ch.waiting with
      | d :: _ => .diagnostic d
      | [] => if ch.handles = [] then .disconnected else .empty := by
  cases hw : ch.waiting with
  | nil => simp only [tryReceive, there, hw, if_true, List.isEmpty_iff]
  | cons d rest => simp only [tryReceive, there, hw, if_true]

theorem receiving_perform (other : op ≠ .dropReceiver) :
    (ch.perform op).2.receiving = ch.receiving := by
  cases op with
  | report handle d => exact receiving_reportAt
  | clone handle => simp only [perform, clone]; split <;> rfl
  | share handle => simp only [perform, share]; split <;> rfl
  | tryReceive => simp only [perform, tryReceive]; split <;> [split <;> rfl; rfl]
  | drain => simp only [perform, drain]; split <;> rfl
  | dropReceiver => exact absurd rfl other
  | dropHandles => rfl

theorem length_handles_perform (admits : ch.Admits op) (other : op ≠ .dropHandles) :
    (ch.perform op).2.handles.length = ch.handles.length + if op.makesHandle then 1 else 0 := by
  cases op with
  | report handle d => exact congrArg List.length handles_reportAt
  | clone handle =>
    rw [perform, clone_of_lt admits]
    exact List.length_append
  | share handle =>
    rw [perform, share_of_lt admits]
    exact List.length_append
  | tryReceive => simp only [perform, tryReceive]; split <;> [split <;> rfl; rfl]
  | drain => simp only [perform, drain]; split <;> rfl
  | dropReceiver => rfl
  | dropHandles => exact absurd rfl other

/-- **One operation neither loses nor repeats a diagnostic.** While there is a receiver, what an
operation hands over and what waits behind it is what waited, and then what it reports. -/
theorem conserved_perform (admits : ch.Admits op) (there : ch.receiving = true)
    (other : op ≠ .dropReceiver) :
    (ch.perform op).1.diagnostics ++ (ch.perform op).2.waiting =
      ch.waiting ++ op.reported?.toList := by
  cases op with
  | report handle d =>
    obtain ⟨h, hreport⟩ := exists_reportAt_eq (d := d) admits
    calc (ch.reportAt handle d).waiting
        = (ch.report d h).waiting := by rw [hreport]
      _ = ch.waiting ++ [d] := waiting_report ch d h there
  | clone handle =>
    rw [perform, clone_of_lt admits]
    exact (List.append_nil _).symm
  | share handle =>
    rw [perform, share_of_lt admits]
    exact (List.append_nil _).symm
  | tryReceive =>
    cases hw : ch.waiting with
    | nil =>
      simp only [perform, tryReceive, there, hw, if_true]
      split <;> rfl
    | cons d rest =>
      simp only [perform, tryReceive, there, hw, if_true, ChannelAnswer.diagnostics,
        ChannelOp.reported?, Option.toList_none, List.append_nil, List.singleton_append]
  | drain => simp only [perform, drain, there, if_true, ChannelAnswer.diagnostics,
      ChannelOp.reported?, Option.toList_none]
  | dropReceiver => exact absurd rfl other
  | dropHandles => exact (List.append_nil _).symm

end DiagnosticChannel

theorem reported_concat (ops : List ChannelOp) (op : ChannelOp) :
    reported (ops ++ [op]) = reported ops ++ op.reported?.toList := by
  cases h : op.reported? <;> simp [reported, h]

namespace ChannelScene

variable {s t : ChannelScene} {ops : List ChannelOp} {op : ChannelOp}

/-! ### The invariant -/

/-- What holds of a scene behind the given operations. -/
structure Accounted (ops : List ChannelOp) (s : ChannelScene) : Prop where
  receiving : s.channel.receiving = true ↔ .dropReceiver ∉ ops
  handles : s.channel.handles.length =
    if .dropHandles ∈ ops then 0 else 1 + ops.countP ChannelOp.makesHandle
  delivered : s.channel.receiving = true → s.received ++ s.channel.waiting = reported ops

theorem step?_eq_some : s.step? op = some t ↔ s.channel.Admits op ∧
    t = ⟨(s.channel.perform op).2, s.answers ++ [(s.channel.perform op).1]⟩ := by
  simp only [step?, Option.ite_none_right_eq_some, Option.some.injEq, eq_comm (a := t)]

theorem received_concat (s : ChannelScene) (ch : DiagnosticChannel) (answer : ChannelAnswer) :
    received ⟨ch, s.answers ++ [answer]⟩ = s.received ++ answer.diagnostics := by
  simp only [received, List.flatMap_append, List.flatMap_singleton]

theorem accounted_start : start.Accounted [] where
  receiving := by simp [start, DiagnosticChannel.new]
  handles := rfl
  delivered := fun _ => rfl

theorem Accounted.step (h : s.Accounted ops) (step : s.step? op = some t) :
    t.Accounted (ops ++ [op]) := by
  obtain ⟨admits, rfl⟩ := step?_eq_some.1 step
  refine ⟨?receiving, ?handles, ?delivered⟩
  case receiving =>
    by_cases drops : op = .dropReceiver
    · subst drops
      simp [DiagnosticChannel.perform, DiagnosticChannel.dropReceiver]
    · rw [DiagnosticChannel.receiving_perform drops, h.receiving]
      simp [Ne.symm drops]
  case handles =>
    by_cases drops : op = .dropHandles
    · subst drops
      simp [DiagnosticChannel.perform, DiagnosticChannel.dropHandles]
    · rw [DiagnosticChannel.length_handles_perform admits drops, h.handles]
      by_cases gone : ChannelOp.dropHandles ∈ ops
      -- No handle is left to make another one from.
      · have noneLeft : s.channel.handles.length = 0 := by rw [h.handles, if_pos gone]
        have makesNone : op.makesHandle = false := by
          cases op with
          | clone handle => exact absurd (noneLeft ▸ admits) (Nat.not_lt_zero handle)
          | share handle => exact absurd (noneLeft ▸ admits) (Nat.not_lt_zero handle)
          | _ => rfl
        simp [gone, makesNone]
      · simp [gone, Ne.symm drops, List.countP_append, List.countP_singleton, Nat.add_assoc]
  case delivered =>
    intro there
    have kept : op ≠ .dropReceiver := by
      rintro rfl
      cases there
    have before : s.channel.receiving = true := by
      rwa [DiagnosticChannel.receiving_perform kept] at there
    calc received ⟨(s.channel.perform op).2, s.answers ++ [(s.channel.perform op).1]⟩ ++
          (s.channel.perform op).2.waiting
        = s.received ++ ((s.channel.perform op).1.diagnostics ++
            (s.channel.perform op).2.waiting) := by
          rw [received_concat, List.append_assoc]
      _ = s.received ++ (s.channel.waiting ++ op.reported?.toList) := by
          rw [DiagnosticChannel.conserved_perform admits before kept]
      _ = reported ops ++ op.reported?.toList := by
          rw [← List.append_assoc, h.delivered before]
      _ = reported (ops ++ [op]) := (reported_concat ops op).symm

theorem run?_concat (ops : List ChannelOp) (op : ChannelOp) :
    run? (ops ++ [op]) = (run? ops).bind (·.step? op) := by
  simp [run?, List.foldlM_append]

/-- The invariant holds behind every run. -/
theorem accounted_run (run : run? ops = some s) : s.Accounted ops := by
  induction ops using List.reverseRecOn generalizing s with
  | nil =>
    cases run
    exact accounted_start
  | append_singleton ops op ih =>
    rw [run?_concat, Option.bind_eq_some_iff] at run
    obtain ⟨before, hbefore, hstep⟩ := run
    exact (ih hbefore).step hstep

namespace Accounted

theorem handles_eq_nil_iff (h : s.Accounted ops) :
    s.channel.handles = [] ↔ .dropHandles ∈ ops := by
  rw [← List.length_eq_zero_iff, h.handles]
  split <;> simp_all

/-- What a receiver finds is the next of the diagnostics that are reported. -/
theorem tryReceive_eq_diagnostic_iff (h : s.Accounted ops) (there : s.channel.receiving = true)
    {d : Diagnostic} : s.channel.tryReceive.1 = .diagnostic d ↔
      ∃ later, reported ops = s.received ++ d :: later := by
  rw [DiagnosticChannel.tryReceive_of_receiving there, ← h.delivered there]
  cases hw : s.channel.waiting with
  | nil =>
    constructor
    · intro found
      dsimp only at found
      split at found <;> cases found
    · rintro ⟨later, hlater⟩
      simp at hlater
  | cons first rest => simp [eq_comm]

theorem tryReceive_eq_disconnected_iff (h : s.Accounted ops)
    (there : s.channel.receiving = true) : s.channel.tryReceive.1 = .disconnected ↔
      .dropHandles ∈ ops ∧ s.channel.waiting = [] := by
  rw [DiagnosticChannel.tryReceive_of_receiving there, ← h.handles_eq_nil_iff]
  cases hw : s.channel.waiting with
  | nil => by_cases gone : s.channel.handles = [] <;> simp [gone]
  | cons first rest => simp

theorem tryReceive_eq_empty_iff (h : s.Accounted ops) (there : s.channel.receiving = true) :
    s.channel.tryReceive.1 = .empty ↔ .dropHandles ∉ ops ∧ s.channel.waiting = [] := by
  rw [DiagnosticChannel.tryReceive_of_receiving there, ← h.handles_eq_nil_iff]
  cases hw : s.channel.waiting with
  | nil => by_cases gone : s.channel.handles = [] <;> simp [gone]
  | cons first rest => simp

end Accounted

/-! ### Delivery -/

/-- Through any live handle a diagnostic can be reported. It waits behind the others while there
is a receiver, and without one the report changes nothing. -/
theorem exists_step_report {handle : Nat} (live : handle < s.channel.handles.length)
    (d : Diagnostic) : ∃ t, s.step? (.report handle d) = some t ∧
      (s.channel.receiving = true → t.channel.waiting = s.channel.waiting ++ [d]) ∧
      (s.channel.receiving = false → t.channel = s.channel) := by
  obtain ⟨h, hreport⟩ := DiagnosticChannel.exists_reportAt_eq (d := d) live
  refine ⟨_, step?_eq_some.2 ⟨live, rfl⟩, fun there => ?_, fun gone => ?_⟩
  · exact (congrArg _ hreport).trans (s.channel.waiting_report d h there)
  · exact hreport.trans (DiagnosticChannel.report_of_not_receiving gone h)

/-- **Every diagnostic is delivered once, in the order of the reports, through any handle.**
Behind any operations on a new channel:
* There is the first handle and one for each clone and each shared pointer, until all are given
  up.
* Through any of them a diagnostic can be reported. Until the receiver is given up it waits behind
  the others; from then on the report changes nothing.
* Until the receiver is given up, the diagnostics received and then those that wait are the
  diagnostics reported, each once and in their order. An attempt to receive finds the next of
  them; it finds the channel disconnected exactly when all handles are gone and nothing waits, and
  empty exactly when a handle lives and nothing waits. A drain hands over all that waits. -/
theorem delivered_of_run (run : run? ops = some s) :
    (s.channel.handles.length =
      if .dropHandles ∈ ops then 0 else 1 + ops.countP ChannelOp.makesHandle) ∧
    (∀ handle d, handle < s.channel.handles.length →
      ∃ t, s.step? (.report handle d) = some t ∧
        (.dropReceiver ∉ ops → t.channel.waiting = s.channel.waiting ++ [d]) ∧
        (.dropReceiver ∈ ops → t.channel = s.channel)) ∧
    (.dropReceiver ∉ ops →
      s.received ++ s.channel.waiting = reported ops ∧
      (∀ d, s.channel.tryReceive.1 = .diagnostic d ↔
        ∃ later, reported ops = s.received ++ d :: later) ∧
      (s.channel.tryReceive.1 = .disconnected ↔
        .dropHandles ∈ ops ∧ s.channel.waiting = []) ∧
      (s.channel.tryReceive.1 = .empty ↔ .dropHandles ∉ ops ∧ s.channel.waiting = []) ∧
      s.channel.drain.1 = some s.channel.waiting) := by
  have accounted := accounted_run run
  refine ⟨accounted.handles, fun handle d live => ?_, fun kept => ?_⟩
  · obtain ⟨t, hstep, waits, ignored⟩ := exists_step_report live d
    refine ⟨t, hstep, fun kept => waits (accounted.receiving.2 kept), fun dropped => ignored ?_⟩
    exact Bool.eq_false_iff.2 fun there => accounted.receiving.1 there dropped
  · have there : s.channel.receiving = true := accounted.receiving.2 kept
    refine ⟨accounted.delivered there, fun d => accounted.tryReceive_eq_diagnostic_iff there,
      accounted.tryReceive_eq_disconnected_iff there, accounted.tryReceive_eq_empty_iff there, ?_⟩
    simp only [DiagnosticChannel.drain, there, if_true]

/-- A report through two shared pointers around a clone is received before a report through the
first handle, which still waits when all handles are gone. -/
theorem delivered_through_shared_clone :
    ∃ s, run? [.clone 0, .share 1, .share 2, .report 3 ⟨.serverExited, "code 3"⟩,
        .report 0 ⟨.clientTimedOut, "late"⟩, .tryReceive, .dropHandles] = some s ∧
      s.received ++ s.channel.waiting =
        [⟨.serverExited, "code 3"⟩, ⟨.clientTimedOut, "late"⟩] ∧
      s.channel.tryReceive.1 = .diagnostic ⟨.clientTimedOut, "late"⟩ := by
  have run : run? [.clone 0, .share 1, .share 2, .report 3 ⟨.serverExited, "code 3"⟩,
      .report 0 ⟨.clientTimedOut, "late"⟩, .tryReceive, .dropHandles] =
    some ⟨⟨[], [⟨.clientTimedOut, "late"⟩], true⟩, [.done, .done, .done, .done, .done,
      .received (.diagnostic ⟨.serverExited, "code 3"⟩), .done]⟩ := rfl
  obtain ⟨-, -, delivered⟩ := delivered_of_run run
  obtain ⟨whole, next, -⟩ := delivered (by simp)
  exact ⟨_, run, whole, (next _).2 ⟨[], rfl⟩⟩

end ChannelScene

end InspectionHost
