import InspectionHost.Diagnostic

/-!
# Channels of diagnostics

A channel delivers diagnostics in the order of their reports, each once. Any number of handles
report into one channel: handles can be cloned and wrapped in shared pointers, and every one
of them reaches the same queue. Once the receiver is gone, reports are dropped silently.

## Main definitions

* `SinkHandle` : a handle, with the shared pointers around it.
* `DiagnosticChannel` : the live handles, the diagnostics that wait, and whether there is a
  receiver.
* `DiagnosticChannel.report`, `DiagnosticChannel.tryReceive`, `DiagnosticChannel.drain` : the two
  ends of a channel.

## Main results

* `waiting_report`, `waiting_foldl_report` : a report through any handle puts its diagnostic last.
-/

namespace InspectionHost

/-- A handle of a channel, inside any number of shared pointers. -/
inductive SinkHandle where
  | direct
  | shared (inner : SinkHandle)
  deriving DecidableEq, Repr

/-- A channel of diagnostics. -/
structure DiagnosticChannel where
  /-- The handles that can still report. -/
  handles : List SinkHandle
  /-- The diagnostics not yet received, the oldest first. -/
  waiting : List Diagnostic
  /-- Whether anyone can still receive. -/
  receiving : Bool
  deriving Repr

namespace DiagnosticChannel

/-- A new channel with one handle. -/
def new : DiagnosticChannel := ⟨[.direct], [], true⟩

/-- What an attempt to receive finds. -/
inductive Received where
  | diagnostic (d : Diagnostic)
  /-- Nothing waits, and a handle can still report. -/
  | empty
  /-- Nothing waits, and nothing can ever come. -/
  | disconnected
  /-- There is no receiver. -/
  | noReceiver
  deriving DecidableEq, Repr

/-- Report through a handle; a shared pointer passes the report on. -/
def report (ch : DiagnosticChannel) (d : Diagnostic) : SinkHandle → DiagnosticChannel
  | .direct => if ch.receiving then { ch with waiting := ch.waiting ++ [d] } else ch
  | .shared inner => ch.report d inner

/-- Report through the handle with the given index, if it is live. -/
def reportAt (ch : DiagnosticChannel) (index : Nat) (d : Diagnostic) : DiagnosticChannel :=
  match ch.handles[index]? with
  | some h => ch.report d h
  | none => ch

/-- Add a clone of the handle with the given index. -/
def clone (ch : DiagnosticChannel) (index : Nat) : DiagnosticChannel :=
  match ch.handles[index]? with
  | some h => { ch with handles := ch.handles ++ [h] }
  | none => ch

/-- Add a shared pointer to the handle with the given index. -/
def share (ch : DiagnosticChannel) (index : Nat) : DiagnosticChannel :=
  match ch.handles[index]? with
  | some h => { ch with handles := ch.handles ++ [.shared h] }
  | none => ch

/-- The number of diagnostics that wait, while there is a receiver. -/
def length? (ch : DiagnosticChannel) : Option Nat :=
  if ch.receiving then some ch.waiting.length else none

/-- Receive the oldest diagnostic without blocking. -/
def tryReceive (ch : DiagnosticChannel) : Received × DiagnosticChannel :=
  if ch.receiving then
    match ch.waiting with
    | d :: rest => (.diagnostic d, { ch with waiting := rest })
    | [] => (if ch.handles.isEmpty then .disconnected else .empty, ch)
  else (.noReceiver, ch)

/-- Receive all diagnostics that wait. -/
def drain (ch : DiagnosticChannel) : Option (List Diagnostic) × DiagnosticChannel :=
  if ch.receiving then (some ch.waiting, { ch with waiting := [] }) else (none, ch)

/-- Give the receiver up, and with it what waits. -/
def dropReceiver (ch : DiagnosticChannel) : DiagnosticChannel :=
  { ch with waiting := [], receiving := false }

/-- Give all handles up. -/
def dropHandles (ch : DiagnosticChannel) : DiagnosticChannel :=
  { ch with handles := [] }

theorem report_eq_direct (ch : DiagnosticChannel) (d : Diagnostic) (h : SinkHandle) :
    ch.report d h = ch.report d .direct := by
  induction h with
  | direct => rfl
  | shared inner ih => exact ih

/-- While there is a receiver, a report through any handle puts its diagnostic last. -/
theorem waiting_report (ch : DiagnosticChannel) (d : Diagnostic) (h : SinkHandle)
    (live : ch.receiving = true) : (ch.report d h).waiting = ch.waiting ++ [d] := by
  rw [report_eq_direct, report, if_pos live]

@[simp] theorem receiving_report (ch : DiagnosticChannel) (d : Diagnostic) (h : SinkHandle) :
    (ch.report d h).receiving = ch.receiving := by
  rw [report_eq_direct, report]
  split <;> rfl

theorem receiving_foldl_report (ch : DiagnosticChannel) (ds : List Diagnostic) (h : SinkHandle) :
    (ds.foldl (fun ch d => ch.report d h) ch).receiving = ch.receiving := by
  induction ds generalizing ch with
  | nil => rfl
  | cons d rest ih => exact (ih _).trans (ch.receiving_report d h)

/-- While there is a receiver, diagnostics that are reported wait behind those before. -/
theorem waiting_foldl_report (ch : DiagnosticChannel) (ds : List Diagnostic) (h : SinkHandle)
    (live : ch.receiving = true) :
    (ds.foldl (fun ch d => ch.report d h) ch).waiting = ch.waiting ++ ds := by
  induction ds generalizing ch with
  | nil => exact (List.append_nil _).symm
  | cons d rest ih =>
    calc ((d :: rest).foldl (fun ch d => ch.report d h) ch).waiting
        = (ch.report d h).waiting ++ rest := ih _ (by rwa [receiving_report])
      _ = ch.waiting ++ [d] ++ rest := by rw [waiting_report ch d h live]
      _ = ch.waiting ++ d :: rest := by rw [List.append_assoc, List.singleton_append]

end DiagnosticChannel

end InspectionHost
