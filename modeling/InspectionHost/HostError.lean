import InspectionHost.Outcome
import InspectionHost.ServerExit

/-!
# Errors of the host and exit codes

Setting the host up can fail, and a command line can end in an error of another kind: a failed
call, a stopped server, or an input or output error. Each has a text and an exit code, and a
context put around an error changes its text and not its code.

## Main definitions

* `HostError` : the errors of configuration, of starting the server and of patterns.
* `RunError` : the errors that a command line can end in.
* `RunError.exitCode` : the exit code that tells an error.
-/

namespace InspectionHost

/-- An error in configuring or starting the host, or in the pattern given. -/
inductive HostError where
  /-- A configuration file could not be read. -/
  | configRead (path : String) (cause : IoError)
  /-- A configuration file does not hold settings. -/
  | configParse (path : String)
  /-- An environment variable overrides a setting with an unusable value. -/
  | invalidEnv (key value : String)
  /-- A supervisor was told to start a second server. -/
  | serverAlreadyStarted
  /-- The thread that supervises the server could not be created. -/
  | supervisorThread (cause : IoError)
  /-- A pattern is blank. -/
  | emptyPattern
  deriving DecidableEq, Repr

namespace HostError

/-- The text of an error. -/
def message : HostError → String
  | configRead path cause => "Failed to read config file " ++ path ++ ": " ++ cause.message
  | configParse path => "Failed to parse config file " ++ path
  | invalidEnv key value => "Invalid value for " ++ key ++ ": '" ++ value ++ "'"
  | serverAlreadyStarted => "Engine server already started for this session"
  | supervisorThread cause => "Failed to spawn supervisor thread: " ++ cause.message
  | emptyPattern => "Pattern must not be empty"

/-- The error underneath, which a report of all causes tells again. -/
def cause? : HostError → Option IoError
  | configRead _ cause => some cause
  | supervisorThread cause => some cause
  | _ => none

/-- Whether the configuration is at fault. -/
def isConfig : HostError → Bool
  | configRead _ _ | configParse _ | invalidEnv _ _ => true
  | _ => false

end HostError

/-- An error that a command line ends in. -/
inductive RunError where
  /-- An error of the host. -/
  | host (error : HostError)
  /-- A client call that failed. -/
  | call (failure : Failure)
  /-- A server that did not end by success. -/
  | serverStopped (exit : ServerExit)
  /-- An error in reading the input or writing the output. -/
  | io (error : IoError)
  /-- An error that is only a text. -/
  | plain (message : String)
  /-- An error told in the words of a context. -/
  | context (words : String) (inner : RunError)
  deriving DecidableEq, Repr

namespace RunError

/-- The text of an error. -/
def message : RunError → String
  | host error => error.message
  | call failure => failure.reason
  | serverStopped exit => "Engine server stopped: " ++ exit.dump
  | io error => error.message
  | plain message => message
  | context words _ => words

/-- The texts of an error and of all its causes, outermost first. -/
def chain : RunError → List String
  | e@(host error) => e.message :: (error.cause?.map IoError.message).toList
  | context words inner => words :: inner.chain
  | e => [e.message]

/-- The texts of an error and of all its causes on one line. -/
def report (e : RunError) : String :=
  ": ".intercalate e.chain

/-- The error of the host within, if there is one. -/
def host? : RunError → Option HostError
  | host error => some error
  | context _ inner => inner.host?
  | _ => none

/-- The exit code that tells an error: 2 for a blank pattern, 3 for a fault of the
configuration, 1 for a failed call or a stopped server, 4 for anything else. -/
def exitCode : RunError → Nat
  | host .emptyPattern => 2
  | host error => if error.isConfig then 3 else 4
  | call _ => 1
  | serverStopped _ => 1
  | io _ => 4
  | plain _ => 4
  | context _ inner => inner.exitCode

end RunError

end InspectionHost
