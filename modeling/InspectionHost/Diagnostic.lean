/-!
# Diagnostics

A diagnostic is one message for the user about the engine server or about one client call. It
goes to a sink that the host has chosen.

## Main definitions

* `DiagnosticKind` : what a diagnostic is about, with its title.
* `Diagnostic` : a kind and a message, with the text shown.
-/

namespace InspectionHost

/-- What a diagnostic is about. -/
inductive DiagnosticKind where
  /-- The engine server could not be launched. -/
  | serverLaunchFailed
  /-- The engine server ended other than by success. -/
  | serverExited
  /-- The client could not be launched or read. -/
  | clientLaunchFailed
  /-- The client ended other than by success. -/
  | clientExitCode
  /-- The client ran past the configured time. -/
  | clientTimedOut
  /-- The caller gave the client call up. -/
  | clientCancelled
  deriving DecidableEq, Repr

namespace DiagnosticKind

/-- The words that open the text of a diagnostic. -/
def title : DiagnosticKind → String
  | serverLaunchFailed => "Regex server failed to start"
  | serverExited => "Regex server stopped"
  | clientLaunchFailed => "Regex client failed"
  | clientExitCode => "Regex client error"
  | clientTimedOut => "Regex client timed out"
  | clientCancelled => "Regex client cancelled"

/-- Whether a diagnostic is about the server rather than one client call. -/
def isServer : DiagnosticKind → Bool
  | serverLaunchFailed | serverExited => true
  | _ => false

/-- The name of the kind in log records. -/
def name : DiagnosticKind → String
  | serverLaunchFailed => "ServerLaunchFailed"
  | serverExited => "ServerExited"
  | clientLaunchFailed => "ClientLaunchFailed"
  | clientExitCode => "ClientExitCode"
  | clientTimedOut => "ClientTimedOut"
  | clientCancelled => "ClientCancelled"

end DiagnosticKind

/-- A message for the user. -/
structure Diagnostic where
  kind : DiagnosticKind
  message : String
  deriving DecidableEq, Repr

namespace Diagnostic

/-- The text of a diagnostic: the title of its kind, then its message. -/
def text (d : Diagnostic) : String :=
  d.kind.title ++ ": " ++ d.message

end Diagnostic

end InspectionHost
