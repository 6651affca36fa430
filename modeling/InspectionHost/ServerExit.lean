import InspectionHost.IoError
import InspectionHost.Text.Quoted

/-!
# How a process and the server session end

## Main definitions

* `ExitStatus` : the status that a process leaves.
* `ServerExit` : how the session of the engine server ended, with its dump.
-/

namespace InspectionHost

/-- The status that a process leaves: an exit code, or the signal that ended it. -/
inductive ExitStatus where
  | code (n : Nat)
  | signal (n : Nat)
  deriving DecidableEq, Repr

namespace ExitStatus

/-- Only the exit code zero is a success. -/
def isSuccess : ExitStatus → Bool
  | code n => n == 0
  | signal _ => false

theorem isSuccess_iff (e : ExitStatus) : e.isSuccess = true ↔ e = code 0 := by
  cases e <;> simp [isSuccess]

/-- The exit code, unless a signal ended the process. -/
def code? : ExitStatus → Option Nat
  | code n => some n
  | signal _ => none

/-- The words that tell a status. -/
def describe : ExitStatus → String
  | code n => "exited with code " ++ Text.Decimal.print n
  | signal n => "terminated by signal " ++ Text.Decimal.print n

end ExitStatus

/-- How the session of the engine server ended. -/
inductive ServerExit where
  /-- The server ran and ended; there is no code when a signal ended it. -/
  | exited (code : Option Int)
  /-- The server never ran. -/
  | launchFailed (reason : String)
  /-- The server ran, and how it ended was not seen. -/
  | waitFailed (reason : String)
  deriving DecidableEq, Repr

namespace ServerExit

/-- Only the exit code zero is a success. -/
def isSuccess (e : ServerExit) : Bool :=
  e == exited (some 0)

/-- The dump of the end of a session. -/
def dump : ServerExit → String
  | exited none => "Exited \x7b code: None \x7d"
  | exited (some code) => "Exited \x7b code: Some(" ++ IoError.decimal code ++ ") \x7d"
  | launchFailed reason => "LaunchFailed \x7b reason: " ++ Text.Quoted.quote reason ++ " \x7d"
  | waitFailed reason => "WaitFailed \x7b reason: " ++ Text.Quoted.quote reason ++ " \x7d"

/-- What is known of a session whose supervisor ended without telling. -/
def lost : ServerExit :=
  waitFailed "supervisor thread ended without reporting"

end ServerExit

end InspectionHost
