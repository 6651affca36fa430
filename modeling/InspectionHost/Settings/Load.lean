import InspectionHost.CommandLine.Invocation
import InspectionHost.Machine.ProgramLookup
import InspectionHost.Settings.File
import InspectionHost.Text.Utf8

/-!
# Loading settings

Settings come from a configuration file, then from the environment, then from the command line.
A file that is named must be there. Without a name, the file of the configuration directory is
read if there is one, and otherwise all settings have their defaults.

## Main definitions

* `Settings.standardFile?` : where the configuration file is without a name for it.
* `Settings.fromFile` : the settings of a file.
* `Settings.resolve` : the settings of a command line.
-/

namespace InspectionHost.Settings

open InspectionHost.CommandLine

/-- The directory of configuration files: an absolute one that the environment names, or else
one in the home directory. -/
def configDirectory? (env : Environment) : Option String :=
  match (env.get? "XDG_CONFIG_HOME").filter fun path => isAbsolutePath path.toList with
  | some path => some path
  | none => (homeDirectory? env).map fun home => joinPath home ".config"

/-- Where the configuration file is without a name for it. -/
def standardFile? (env : Environment) : Option String :=
  (configDirectory? env).map fun path => joinParts path ["rwp", "config.toml"]

/-- The text of a file. -/
def fileText (t : FileTree) (directory : Place) (path : String) : Except IoError (Option String) :=
  match t.read directory path with
  | .error e => .error e
  | .ok (.bytes content) =>
    match Text.Utf8.decode? content with
    | some text => .ok (some (String.ofList text))
    | none => .error .invalidUtf8
  | .ok (.script _) => .ok none
  | .ok (.machineCode _) | .ok .shell => .error .invalidUtf8

/-- The settings of a file. A script holds none. -/
def fromFile (t : FileTree) (directory : Place) (path : String) : Except HostError Settings :=
  match fileText t directory path with
  | .error e => .error (.configRead path e)
  | .ok text =>
    match text.bind ofText? with
    | some settings => .ok settings
    | none => .error (.configParse path)

/-- The settings of the configuration file, which is the named one if there is a name. -/
def load (t : FileTree) (directory : Place) (env : Environment) (named : Option String) :
    Except HostError Settings :=
  match named, standardFile? env with
  | some path, _ => fromFile t directory path
  | none, some path => if t.reaches directory path then fromFile t directory path else .ok standard
  | none, none => .ok standard

/-- The configuration file that a command line reads, as far as it is understood. -/
def fileOfWords? (env : Environment) (words : List String) : Option String :=
  match Invocation.ofWords (env.get? "RWP_CONFIG") words with
  | .ok i => i.config.or (standardFile? env)
  | .error _ => none

/-- The settings of a command line. -/
def resolve (t : FileTree) (directory : Place) (env : Environment) (i : Invocation) :
    Except HostError Settings := do
  let settings ← load t directory env i.config
  match settings.withEnvironment env.get? with
  | (settings, none) => return settings.withFlags i.flags
  | (_, some error) => .error error

end InspectionHost.Settings
