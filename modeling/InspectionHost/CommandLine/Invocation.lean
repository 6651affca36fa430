import InspectionHost.CommandLine.Reading

/-!
# Invocations

An invocation is a command line that is understood: one action with its texts and switches,
and the options that every action shares. A shared option means the same before and behind the
name of the action; where it is given at both places, the place behind the name wins. A switch
counts at either place.

## Main definitions

* `Action` : what is to be done.
* `Invocation` : an action and the shared options.
* `Invocation.ofWords` : the invocation of the words of a command line.
-/

namespace InspectionHost.CommandLine

/-- What a command line asks for. -/
inductive Action where
  /-- Whether a pattern parses. -/
  | parse (pattern : String) (json : Bool)
  /-- Whether a pattern matches a candidate; without one, candidates are prompted for. -/
  | matching (pattern : String) (candidate : Option String) (json : Bool)
  /-- What a pattern means. -/
  | explain (pattern : String) (json : Bool)
  /-- Run the engine server in the foreground. -/
  | server
  /-- Read requests and answer each, beside the engine server unless it is not wanted. -/
  | session (noServer : Bool) (json : Bool)
  deriving DecidableEq, Repr

/-- A path of the configuration file, and whether it was typed. -/
structure ConfigChoice where
  path : String
  /-- Whether the path stands on the command line; otherwise it is from the environment. -/
  typed : Bool
  deriving DecidableEq, Repr

namespace ConfigChoice

/-- The choice of two levels: the inner one, unless only the outer one was typed. -/
def merge (outer inner : ConfigChoice) : ConfigChoice :=
  if outer.typed && !inner.typed then outer else inner

end ConfigChoice

/-- A level of the command line that is read to its end. -/
structure LevelResult where
  reading : Reading
  config : Option ConfigChoice
  deriving Repr

namespace Reading

/-- The end of a level: the value that waits is checked, and the environment gives the path of
the configuration file if no word does. An empty path is refused. -/
def finish (environmentConfig : Option String) (r : Reading) : Except UsageError LevelResult := do
  let r ← r.settle
  match r.value? .config, environmentConfig with
  | some path, _ => return ⟨r, some ⟨path, true⟩⟩
  | none, none => return ⟨r, none⟩
  | none, some path =>
    if path.isEmpty then .error .invalidValue else return ⟨r, some ⟨path, false⟩⟩

/-- Whether a switch is on. -/
def has (r : Reading) (s : Switch) : Bool :=
  decide (s ∈ r.switches)

/-- The action of a name, with the texts and switches behind the name. -/
def action (r : Reading) : ActionName → Except UsageError Action
  | .parse =>
    match r.texts with
    | pattern :: _ => .ok (.parse pattern (r.has .json))
    | [] => .error .missingRequiredArgument
  | .matching =>
    match r.texts with
    | pattern :: rest => .ok (.matching pattern rest.head? (r.has .json))
    | [] => .error .missingRequiredArgument
  | .explain =>
    match r.texts with
    | pattern :: _ => .ok (.explain pattern (r.has .json))
    | [] => .error .missingRequiredArgument
  | .server => .ok .server
  | .session => .ok (.session (r.has .noServer) (r.has .json))

end Reading

/-- A command line that is understood. -/
structure Invocation where
  /-- Whether all log records are wanted. -/
  verbose : Bool
  /-- Whether log records are written as JSON. -/
  jsonOutput : Bool
  /-- The configuration file. -/
  config : Option String
  /-- The client program. -/
  client : Option String
  /-- The server program. -/
  server : Option String
  /-- How many seconds a client call may take. -/
  timeout : Option UInt64
  action : Action
  deriving DecidableEq, Repr

namespace Invocation

/-- The invocation of two levels that are read to their ends. -/
def ofLevels (outer inner : LevelResult) (action : Action) : Invocation where
  verbose := outer.reading.has .verbose || inner.reading.has .verbose
  jsonOutput := outer.reading.has .jsonOutput || inner.reading.has .jsonOutput
  config := (match outer.config, inner.config with
    | some o, some i => some (o.merge i)
    | some o, none => some o
    | none, i => i).map ConfigChoice.path
  client := (inner.reading.value? .client).or (outer.reading.value? .client)
  server := (inner.reading.value? .server).or (outer.reading.value? .server)
  timeout :=
    ((inner.reading.value? .timeout).or (outer.reading.value? .timeout)).bind Reading.seconds?
  action := action

/-- What a command line without an action is: an error if it holds anything, and a question for
help otherwise. -/
def withoutAction (outer : LevelResult) : UsageError :=
  if outer.reading.switches.isEmpty && outer.reading.values.isEmpty && outer.config.isNone then
    .displayHelpOnMissing
  else .missingSubcommand

/-- The invocation of the words of a command line, where the environment may give the path of
the configuration file. The words behind the name of the action are checked to their end before
the last check of the words in front of it. -/
def ofWords (environmentConfig : Option String) (words : List String) :
    Except UsageError Invocation := do
  let (outer, rest?) ← Reading.words Level.top .start words
  match rest? with
  | none => .error (withoutAction (← outer.finish environmentConfig))
  | some (name, rest) =>
    let (inner, _) ← Reading.words (Level.ofAction name) .start rest
    let inner ← inner.finish environmentConfig
    let action ← inner.reading.action name
    return ofLevels (← outer.finish environmentConfig) inner action

/-- The flags that override settings. -/
def flags (i : Invocation) : Settings.Flags where
  clientProgram := i.client
  serverProgram := i.server
  commandTimeoutSecs := i.timeout

end Invocation

end InspectionHost.CommandLine
