import InspectionHost.Machine.Environment
import InspectionHost.Machine.Launch
import InspectionHost.Settings
import InspectionHost.Text.Quoted

/-!
# Configured clients

A configured client knows its program, the time of a call, the working directory, and the
variables that it gets beyond those of the host. Setting a variable again replaces its value,
and a copy made before is not changed by it.

## Main definitions

* `Client` : a configured client.
* `Client.withVariable` : set a variable.
* `Client.launch` : what is launched for a command.
* `Client.dump` : the structure dump of a configured client.
-/

namespace InspectionHost

/-- A configured client. -/
structure Client where
  options : CallOptions
  /-- The variables set for the client beyond those of the host. -/
  additions : Environment
  deriving DecidableEq, Repr

namespace Client

/-- A client with options and without variables of its own. -/
def ofOptions (options : CallOptions) : Client := ⟨options, .empty⟩

/-- Set a variable for the client. -/
def withVariable (c : Client) (name value : String) : Client :=
  { c with additions := c.additions.set name value }

/-- What is launched for a command, where the program is found at `path`. The output is the only
thing that the client tells. -/
def launch (c : Client) (path : String) (command : Command) : Launch where
  program := path
  arguments := command.arguments
  directory := c.options.workingDirectory
  additions := c.additions.bindings
  output := .piped
  errors := .discarded

/-- A value that may be missing, in a structure dump. -/
def dumpOption : Option String → String
  | none => "None"
  | some text => "Some(" ++ text ++ ")"

/-- The variables in a structure dump. -/
def dumpBindings (bindings : List (String × String)) : String :=
  let entries := bindings.map fun (name, value) =>
    Text.Quoted.quote name ++ ": " ++ Text.Quoted.quote value
  "\x7b" ++ ", ".intercalate entries ++ "\x7d"

/-- The structure dump of options. -/
def dumpOptions (o : CallOptions) : String :=
  "ExecutorOptions \x7b program: " ++ Text.Quoted.quote o.program ++
    ", timeout: " ++ dumpOption (o.timeout.map Duration.dump) ++
    ", working_directory: " ++ dumpOption (o.workingDirectory.map Text.Quoted.quote) ++ " \x7d"

/-- The structure dump of a configured client. -/
def dump (c : Client) : String :=
  "CommandExecutor \x7b options: " ++ dumpOptions c.options ++
    ", env_additions: " ++ dumpBindings c.additions.bindings ++ ", .. \x7d"

end Client

end InspectionHost
