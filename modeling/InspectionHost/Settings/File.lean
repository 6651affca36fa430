import InspectionHost.Settings
import InspectionHost.Toml.Document

/-!
# Settings in a configuration file

A configuration file is a TOML document. A key that names a setting needs a value of its kind,
a setting without a key has its default, and all other keys are ignored.

## Main definitions

* `Settings.ofTable?` : the settings of a tree.
* `Settings.ofText?` : the settings of a document.
-/

namespace InspectionHost.Settings

open InspectionHost.Toml

/-- A text, if the key has one; the default without the key. -/
def textField? (t : Table) (key : String) (default : String) : Option String :=
  match t.get? key with
  | none => some default
  | some (.text s) => some s
  | some _ => none

/-- A text, if the key has one; nothing without the key. -/
def pathField? (t : Table) (key : String) : Option (Option String) :=
  match t.get? key with
  | none => some none
  | some (.text s) => some (some s)
  | some _ => none

/-- A truth value, if the key has one; the default without the key. -/
def flagField? (t : Table) (key : String) (default : Bool) : Option Bool :=
  match t.get? key with
  | none => some default
  | some (.boolean b) => some b
  | some _ => none

/-- A number that is not negative, if the key has one; nothing without the key. -/
def secondsField? (t : Table) (key : String) : Option (Option UInt64) :=
  match t.get? key with
  | none => some none
  | some (.integer n) => if 0 ≤ n then some (some (UInt64.ofNat n.toNat)) else none
  | some _ => none

/-- The settings of a tree. -/
def ofTable? (t : Table) : Option Settings := do
  return {
    serverProgram := ← textField? t "server_program" standard.serverProgram
    clientProgram := ← textField? t "client_program" standard.clientProgram
    commandTimeoutSecs := ← secondsField? t "command_timeout_secs"
    startServer := ← flagField? t "start_server" standard.startServer
    workingDirectory := ← pathField? t "working_directory" }

/-- The settings of a document. -/
def ofText? (text : String) : Option Settings := do
  ofTable? (← document? text.toList)

end InspectionHost.Settings
