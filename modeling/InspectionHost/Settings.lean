import InspectionHost.Command
import InspectionHost.Duration
import InspectionHost.HostError
import InspectionHost.Text.Blank

/-!
# Settings

The settings name the two programs, how long a client call may take, whether a session starts
the server, and the working directory of both programs. A configuration file replaces them all,
environment variables override three of them, and flags of the command line override the same
three again.

## Main definitions

* `Settings` : the settings, with their defaults.
* `Settings.withEnvironment` : the overrides of the environment, and the error of an unusable one.
* `Settings.withFlags` : the overrides of the command line.
* `CallOptions` : what a client call takes from the settings.
-/

namespace InspectionHost

/-- The settings of the host. -/
structure Settings where
  /-- The program of the engine server. -/
  serverProgram : String
  /-- The program of the client. -/
  clientProgram : String
  /-- How many seconds a client call may take; none or zero means any time. -/
  commandTimeoutSecs : Option UInt64
  /-- Whether a session starts the engine server. -/
  startServer : Bool
  /-- The working directory of both programs. -/
  workingDirectory : Option String
  deriving DecidableEq, Repr

/-- What a client call takes from the settings. -/
structure CallOptions where
  /-- The program, as a name to look up or a path. -/
  program : String
  /-- How long the client may run; without a limit it may run for any time. -/
  timeout : Option Duration
  /-- The working directory of the client. -/
  workingDirectory : Option String
  deriving DecidableEq, Repr

namespace CallOptions

/-- The options of a call when nothing is configured. -/
def standard : CallOptions := ⟨Command.defaultProgram, none, none⟩

end CallOptions

namespace Settings

/-- The engine server unless another program is configured. -/
def defaultServerProgram : String := "wr22-regex-server"

/-- The settings when nothing is configured. -/
def standard : Settings where
  serverProgram := defaultServerProgram
  clientProgram := Command.defaultProgram
  commandTimeoutSecs := none
  startServer := true
  workingDirectory := none

/-- The environment variable that names the server program. -/
def serverProgramKey : String := "RWP_SERVER_PROGRAM"

/-- The environment variable that names the client program. -/
def clientProgramKey : String := "RWP_CLIENT_PROGRAM"

/-- The environment variable that holds the time of a client call. -/
def commandTimeoutKey : String := "RWP_COMMAND_TIMEOUT_SECS"

/-- The value of a variable that names a program, unless it is blank. -/
def programOverride? (lookup : String → Option String) (key : String) : Option String :=
  (lookup key).filter fun value => !Text.allBlank value.toList

/-- The overrides of the two program names. -/
def withPrograms (s : Settings) (lookup : String → Option String) : Settings :=
  { s with
    serverProgram := (programOverride? lookup serverProgramKey).getD s.serverProgram
    clientProgram := (programOverride? lookup clientProgramKey).getD s.clientProgram }

/-- The overrides of the environment. An unusable time is an error; the program names are
overridden all the same. -/
def withEnvironment (s : Settings) (lookup : String → Option String) :
    Settings × Option HostError :=
  let named := s.withPrograms lookup
  match lookup commandTimeoutKey with
  | none => (named, none)
  | some raw =>
    match Text.Decimal.readUInt64? (Text.trim raw.toList) with
    | some secs => ({ named with commandTimeoutSecs := some secs }, none)
    | none => (named, some (.invalidEnv commandTimeoutKey raw))

/-- The overrides of a command line. -/
structure Flags where
  clientProgram : Option String
  serverProgram : Option String
  commandTimeoutSecs : Option UInt64
  deriving DecidableEq, Repr

/-- The settings with the flags of a command line, which win over all else. -/
def withFlags (s : Settings) (f : Flags) : Settings :=
  { s with
    clientProgram := f.clientProgram.getD s.clientProgram
    serverProgram := f.serverProgram.getD s.serverProgram
    commandTimeoutSecs := f.commandTimeoutSecs.or s.commandTimeoutSecs }

/-- How long a client call may take; zero seconds mean any time. -/
def commandTimeout (s : Settings) : Option Duration :=
  (s.commandTimeoutSecs.filter (0 < ·)).map fun secs => Duration.ofSeconds secs.toNat

/-- The options of client calls under these settings. -/
def callOptions (s : Settings) : CallOptions where
  program := s.clientProgram
  timeout := s.commandTimeout
  workingDirectory := s.workingDirectory

end Settings

end InspectionHost
