import InspectionHost.Diagnostic

/-!
# Sinks of diagnostics

A sink takes diagnostics. It keeps them for a receiver, writes them to the log, or refuses them,
and then whoever reports is aborted.

## Main definitions

* `Sink` : the kinds of sinks.
* `Abort` : why a task is aborted.
* `Reported` : what a task has reported, and its result unless it was aborted.
-/

namespace InspectionHost

/-- What a sink does with diagnostics. -/
inductive Sink where
  /-- Keep them for a receiver. -/
  | channel
  /-- Write them to the log. -/
  | log
  /-- Abort whoever reports. -/
  | refusing
  deriving DecidableEq, Repr

/-- Why a task is aborted. -/
inductive Abort where
  /-- A sink refused a diagnostic. -/
  | refused (diagnostic : Diagnostic)
  /-- The time of a call is over at no reading of the clock. -/
  | clockOverflow
  /-- The task waits for something that does not happen. -/
  | unending
  deriving DecidableEq, Repr

namespace Abort

/-- The text of an abort. -/
def message : Abort → String
  | refused diagnostic => "sink refused: " ++ diagnostic.text
  | clockOverflow => "overflow when adding duration to instant"
  | unending => "the task does not end"

end Abort

/-- The diagnostics that a task has reported, in order, and its result unless it was aborted. -/
structure Reported (α : Type) where
  diagnostics : List Diagnostic
  result : Except Abort α
  deriving Repr

namespace Reported

/-- A result without a diagnostic. -/
def pure {α : Type} (a : α) : Reported α := ⟨[], .ok a⟩

/-- A task behind a task: it goes on with the result of the first unless that is aborted. -/
def bind {α β : Type} (r : Reported α) (f : α → Reported β) : Reported β :=
  match r.result with
  | .error abort => ⟨r.diagnostics, .error abort⟩
  | .ok a => ⟨r.diagnostics ++ (f a).diagnostics, (f a).result⟩

instance : Monad Reported where
  pure := pure
  bind := bind

end Reported

namespace Sink

/-- Report a diagnostic to a sink. -/
def report (s : Sink) (d : Diagnostic) : Reported Unit :=
  match s with
  | channel | log => ⟨[d], .ok ()⟩
  | refusing => ⟨[], .error (.refused d)⟩

/-- Report a diagnostic if there is one. -/
def reportAll (s : Sink) : Option Diagnostic → Reported Unit
  | some d => s.report d
  | none => Reported.pure ()

end Sink

end InspectionHost
