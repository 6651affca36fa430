import InspectionHost.Settings

/-!
# The grammar of the command line

A command line names one action. Options that every action understands may stand before the
name of the action or behind it; the others belong to one action. The grammar of a level says
which options, how many texts and which names it takes.

## Main definitions

* `ActionName`, `Switch`, `Valued` : the words of the grammar.
* `Level` : the options and texts that may stand at a place.
* `UsageError` : what is wrong with a command line, or what it asks to be told.
-/

namespace InspectionHost.CommandLine

/-- The name of an action. -/
inductive ActionName where
  | parse | matching | explain | server | session
  deriving DecidableEq, Repr

namespace ActionName

/-- The names as they are written. -/
def written : List (String × ActionName) :=
  [("parse", parse), ("match", matching), ("explain", explain), ("server", server),
    ("session", session)]

/-- The action that a word names. -/
def ofWord? (word : String) : Option ActionName :=
  written.lookup word

end ActionName

/-- The word that asks for help in the place of an action. -/
def helpWord : String := "help"

/-- An option without a value. -/
inductive Switch where
  | verbose | jsonOutput | json | noServer
  deriving DecidableEq, Repr

/-- An option with a value. -/
inductive Valued where
  | config | client | server | timeout
  deriving DecidableEq, Repr

/-- What an option stands for. -/
inductive Meaning where
  | switch (s : Switch)
  | valued (v : Valued)
  | help
  | version
  deriving DecidableEq, Repr

/-- What is wrong with a command line, or what it asks to be told. -/
inductive UsageError where
  /-- An option or a text that nothing takes. -/
  | unknownArgument
  /-- A value that is missing, or empty where it must not be. -/
  | invalidValue
  /-- A value of the wrong form. -/
  | valueValidation
  /-- A word in the place of an action that names none. -/
  | invalidSubcommand
  /-- An option given twice at one level. -/
  | argumentConflict
  /-- A text that the action needs is missing. -/
  | missingRequiredArgument
  /-- There are options and no action. -/
  | missingSubcommand
  /-- A value for an option that takes none. -/
  | tooManyValues
  /-- Help is asked for. -/
  | displayHelp
  /-- The version is asked for. -/
  | displayVersion
  /-- There is nothing at all, which is answered by help. -/
  | displayHelpOnMissing
  deriving DecidableEq, Repr

namespace UsageError

/-- The exit code of a command line that is not carried out. -/
def exitCode : UsageError → Nat
  | displayHelp | displayVersion => 0
  | _ => 2

end UsageError

/-- What may stand at a place of the command line. -/
structure Level where
  /-- The options written with two dashes. -/
  longs : List (String × Meaning)
  /-- The options written with one dash and one letter. -/
  shorts : List (Char × Meaning)
  /-- How many texts there may be. -/
  texts : Nat
  /-- Whether the name of an action belongs here. -/
  actions : Bool

/-- The options that every level takes. -/
def sharedLongs : List (String × Meaning) :=
  [("verbose", .switch .verbose), ("json-output", .switch .jsonOutput),
    ("config", .valued .config), ("client", .valued .client), ("server", .valued .server),
    ("timeout", .valued .timeout), ("help", .help)]

/-- The one-letter options that every level takes. -/
def sharedShorts : List (Char × Meaning) :=
  [('v', .switch .verbose), ('h', .help)]

namespace Level

/-- The place before the name of the action. -/
def top : Level where
  longs := sharedLongs ++ [("version", .version)]
  shorts := sharedShorts ++ [('V', .version)]
  texts := 0
  actions := true

/-- The place behind the name of an action. -/
def ofAction : ActionName → Level
  | .parse | .explain =>
    ⟨sharedLongs ++ [("json", .switch .json)], sharedShorts, 1, false⟩
  | .matching => ⟨sharedLongs ++ [("json", .switch .json)], sharedShorts, 2, false⟩
  | .server => ⟨sharedLongs, sharedShorts, 0, false⟩
  | .session =>
    ⟨sharedLongs ++ [("no-server", .switch .noServer), ("json", .switch .json)], sharedShorts,
      0, false⟩

end Level

end InspectionHost.CommandLine
