import InspectionHost.CommandLine.Grammar

/-!
# Reading one level of a command line

The words of a level are read from left to right. An option that takes a value may get it
attached or as the next word. A value that came as a word of its own is checked only when the
next option or text comes, or when the level ends, so that a fault further on may be found
first.

## Main definitions

* `Reading` : what a level has taken so far.
* `Reading.settle` : check the value that still waits.
* `Reading.words` : read words up to the name of an action or the end.
-/

namespace InspectionHost.CommandLine

/-- What a level of the command line has taken so far. -/
structure Reading where
  switches : List Switch
  values : List (Valued × String)
  texts : List String
  /-- The option whose value is not checked yet, and its value if it has come. -/
  pending : Option (Valued × Option String)
  deriving Repr

namespace Reading

/-- Nothing is taken yet. -/
def start : Reading := ⟨[], [], [], none⟩

/-- Whether the last word was an option whose value has to follow. -/
def awaiting (r : Reading) : Bool :=
  match r.pending with
  | some (_, none) => true
  | _ => false

/-- The value of an option. -/
def value? (r : Reading) (v : Valued) : Option String :=
  r.values.lookup v

/-- The time that a value denotes: a decimal number of 64 bits. -/
def seconds? (value : String) : Option UInt64 :=
  Text.Decimal.readUInt64? value.toList

/-- Check that a value has the form its option asks for. The path of a configuration file must
not be empty, and a time has to be a number. -/
def checkValue : Valued → String → Except UsageError Unit
  | .config, value => if value.isEmpty then .error .invalidValue else .ok ()
  | .timeout, value => if (seconds? value).isSome then .ok () else .error .valueValidation
  | .client, _ => .ok ()
  | .server, _ => .ok ()

/-- Take the value of an option, which must not have one at this level. -/
def takeValue (r : Reading) (v : Valued) (value : String) : Except UsageError Reading :=
  if (r.value? v).isSome then .error .argumentConflict
  else (checkValue v value).map fun _ => { r with values := r.values ++ [(v, value)] }

/-- Check the value that still waits, if there is one. -/
def settle (r : Reading) : Except UsageError Reading :=
  match r.pending with
  | none => .ok r
  | some (_, none) => .error .invalidValue
  | some (v, some value) => { r with pending := none }.takeValue v value

/-- Take an option without value, which must not stand twice at this level. -/
def takeSwitch (r : Reading) (s : Switch) : Except UsageError Reading := do
  let r ← r.settle
  if s ∈ r.switches then .error .argumentConflict
  else .ok { r with switches := r.switches ++ [s] }

/-- Take an option in one of its meanings, with the value attached to it if there is one. -/
def takeOption (r : Reading) (attached : Option String) : Meaning → Except UsageError Reading
  | .switch s => if attached.isSome then .error .tooManyValues else r.takeSwitch s
  | .valued v =>
    match attached with
    | some value => do (← r.settle).takeValue v value
    | none => do return { ← r.settle with pending := some (v, none) }
  | .help => if attached.isSome then .error .tooManyValues else do
      let _ ← r.settle
      .error .displayHelp
  | .version => if attached.isSome then .error .tooManyValues else do
      let _ ← r.settle
      .error .displayVersion

/-- Take one-letter options that stand together behind one dash. -/
def takeShorts (level : Level) (r : Reading) : List Char → Except UsageError Reading
  | [] => .ok r
  | c :: cs =>
    match level.shorts.lookup c with
    | none => .error .unknownArgument
    | some meaning => do takeShorts level (← r.takeOption none meaning) cs

/-- Take a text, if the level has room for one. -/
def takeText (level : Level) (trailing : Bool) (r : Reading) (text : String) :
    Except UsageError Reading :=
  if r.texts.length < level.texts then do
    let r ← r.settle
    return { r with texts := r.texts ++ [text] }
  else if level.actions then
    if trailing && ((ActionName.ofWord? text).isSome || text == helpWord) then
      .error .unknownArgument
    else .error .invalidSubcommand
  else .error .unknownArgument

/-- The name of a long option and the value attached to it, from behind its dashes. -/
def splitLong (cs : List Char) : String × Option String :=
  let name := cs.takeWhile (· != '=')
  match cs.drop name.length with
  | _ :: value => (String.ofList name, some (String.ofList value))
  | [] => (String.ofList name, none)

/-- Take one word that stands before any pair of dashes. -/
def takeWord (level : Level) (r : Reading) (word : String) : Except UsageError Reading :=
  match word.toList with
  | '-' :: '-' :: cs =>
    let (name, attached) := splitLong cs
    match level.longs.lookup name with
    | none => .error .unknownArgument
    | some meaning => r.takeOption attached meaning
  | '-' :: c :: cs => r.takeShorts level (c :: cs)
  | _ =>
    match r.pending with
    | some (v, none) => .ok { r with pending := some (v, some word) }
    | _ => r.takeText level false word

/-- Take texts only, as behind a pair of dashes. -/
def takeTexts (level : Level) (r : Reading) : List String → Except UsageError Reading
  | [] => .ok r
  | word :: rest => do takeTexts level (← r.takeText level true word) rest

/-- Help that is asked for in the place of an action: the words behind have to name an action,
and an action has none of its own. -/
def helpFor : List String → UsageError
  | [] => .displayHelp
  | [word] =>
    if (ActionName.ofWord? word).isSome || word == helpWord then .displayHelp
    else .invalidSubcommand
  | _ => .invalidSubcommand

/-- Read words up to the name of an action, which is handed on with the words behind it, or up
to the end. -/
def words (level : Level) (r : Reading) :
    List String → Except UsageError (Reading × Option (ActionName × List String))
  | [] => .ok (r, none)
  | word :: rest =>
    if level.actions && !r.awaiting then
      if word == helpWord then .error (helpFor rest)
      else match ActionName.ofWord? word with
        | some name => .ok (r, some (name, rest))
        | none => wordsFrom word rest
    else wordsFrom word rest
where
  /-- Read a word that names no action, and the words behind it. -/
  wordsFrom (word : String) (rest : List String) :
      Except UsageError (Reading × Option (ActionName × List String)) :=
    if word == "--" then (r.takeTexts level rest).map fun r => (r, none)
    else do words level (← r.takeWord level word) rest

end Reading

end InspectionHost.CommandLine
