import InspectionHost.Diagnostic
import InspectionHost.Duration
import InspectionHost.IoError
import InspectionHost.Json.Text

/-!
# Outcomes of client calls

A client call ends in the text that the client wrote, its lines joined by single spaces, or in
a failure. The exit status of the client is no failure: it is reported as a diagnostic, and the
text is the outcome all the same.

## Main definitions

* `Failure` : why a call has no text, in five kinds, with the reason shown.
* `joinLines` : the text of the lines of a client.
* `Outcome` : text or failure, with the text to display and the written form.
-/

namespace InspectionHost

/-- The kinds of failure of a client call. -/
inductive FailureKind where
  /-- No program of the configured name exists. -/
  | notFound
  /-- The program exists and could not be started. -/
  | launch
  /-- The output of the client could not be read. -/
  | io
  /-- The client ran past the configured time. -/
  | timedOut
  /-- The caller gave the call up. -/
  | cancelled
  deriving DecidableEq, Repr

namespace FailureKind

/-- The diagnostic that a failure of this kind is reported as. -/
def diagnosticKind : FailureKind → DiagnosticKind
  | notFound | launch | io => .clientLaunchFailed
  | timedOut => .clientTimedOut
  | cancelled => .clientCancelled

/-- The name of the kind in the written form of an outcome. -/
def name : FailureKind → String
  | notFound => "not_found"
  | launch => "launch"
  | io => "io"
  | timedOut => "timed_out"
  | cancelled => "cancelled"

end FailureKind

/-- Why a client call has no text. -/
structure Failure where
  kind : FailureKind
  reason : String
  deriving DecidableEq, Repr

namespace Failure

/-- No program of the name exists. -/
def notFound (program : String) : Failure :=
  ⟨.notFound, "Binary '" ++ program ++ "' not found. Install it or add to PATH."⟩

/-- The program could not be started. -/
def launch (program : String) (error : IoError) : Failure :=
  ⟨.launch, "Failed to launch '" ++ program ++ "': " ++ error.message⟩

/-- The output could not be read. -/
def io (error : String) : Failure :=
  ⟨.io, "IO error: " ++ error⟩

/-- The client ran for the given time and had not ended. -/
def timedOut (limit : Duration) : Failure :=
  ⟨.timedOut, "Command timed out after " ++ Text.Decimal.print limit.millis ++ " ms"⟩

/-- The caller gave the call up. -/
def cancelled : Failure :=
  ⟨.cancelled, "Command cancelled"⟩

/-- The diagnostic that reports a failure. -/
def diagnostic (f : Failure) : Diagnostic :=
  ⟨f.kind.diagnosticKind, f.reason⟩

end Failure

/-- Lines joined by single spaces. Empty lines stay, as extra spaces. -/
def joinLines : List String → String
  | [] => ""
  | line :: rest => rest.foldl (fun text next => text ++ " " ++ next) line

/-- How a client call ended. -/
inductive Outcome where
  /-- The text that the client wrote. -/
  | output (text : String)
  /-- The call failed. -/
  | failure (failure : Failure)
  deriving DecidableEq, Repr

namespace Outcome

/-- The outcome of a client that wrote the given lines. -/
def ofLines (lines : List String) : Outcome :=
  output (joinLines lines)

/-- The text to display, which is empty for a failure. -/
def displayText : Outcome → String
  | output text => text
  | failure _ => ""

/-- The failure, if the call failed. -/
def failure? : Outcome → Option Failure
  | output _ => none
  | failure f => some f

/-- Whether the call failed. -/
def isFailure (o : Outcome) : Bool :=
  o.failure?.isSome

/-- The written form of an outcome: a JSON object without blanks. -/
def json : Outcome → String
  | output text => String.ofList (Json.object [("output", Json.quote text.toList)])
  | failure f =>
    String.ofList (Json.object [("failure", Json.object
      [("kind", Json.quote f.kind.name.toList), ("reason", Json.quote f.reason.toList)])])

theorem ge_space_of_mem_json {o : Outcome} {c : Char} (h : c ∈ o.json.toList) :
    0x20 ≤ c.toNat := by
  cases o with
  | output text =>
    rw [json, String.toList_ofList] at h
    refine Json.ge_space_of_mem_object (fun member there c hc => ?_) h
    obtain rfl := List.mem_singleton.1 there
    exact Json.ge_space_of_mem_quote hc
  | failure f =>
    rw [json, String.toList_ofList] at h
    refine Json.ge_space_of_mem_object (fun member there c hc => ?_) h
    obtain rfl := List.mem_singleton.1 there
    refine Json.ge_space_of_mem_object (fun member there c hc => ?_) hc
    simp only [List.mem_cons, List.not_mem_nil, or_false] at there
    obtain rfl | rfl := there <;> exact Json.ge_space_of_mem_quote hc

end Outcome

end InspectionHost
