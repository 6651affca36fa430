import InspectionHost.Command
import InspectionHost.HostError
import InspectionHost.Text.Blank

/-!
# Requests of a session

A line of a session is a request: a verb, and for some verbs a pattern, which is everything
behind the first space. Blanks in front of the verb and the end of the line do not count.

## Main definitions

* `Request` : the requests, also those that make no sense.
* `RequestFault.message` : what is answered to a request that makes no sense.
* `Request.ofLine` : the request of a line.
-/

namespace InspectionHost.Session

open InspectionHost.Text

/-- Why a line is no request. -/
inductive RequestFault where
  /-- The verb needs a pattern, and the pattern is blank. -/
  | emptyPattern (verb : String)
  /-- There is no such verb. -/
  | unknownVerb (verb : String)
  deriving DecidableEq, Repr

namespace RequestFault

/-- The answer to a line that is no request. -/
def message : RequestFault → String
  | emptyPattern verb => verb ++ ": " ++ HostError.emptyPattern.message
  | unknownVerb verb => "unknown command '" ++ verb ++ "'"

end RequestFault

/-- A line of session input. -/
inductive Request where
  /-- A single client call. -/
  | run (command : Command)
  /-- Match candidates against a pattern until a blank line. -/
  | candidates (pattern : String)
  /-- List the verbs. -/
  | help
  /-- End the session. -/
  | quit
  /-- A line of blanks, which asks for nothing. -/
  | blank
  /-- A line that is no request. -/
  | invalid (fault : RequestFault)
  deriving DecidableEq, Repr

namespace Request

/-- The part before the first space, and the part behind it, which is empty without a space. -/
def splitVerb (cs : List Char) : List Char × List Char :=
  (cs.takeWhile (· != ' '), (cs.dropWhile (· != ' ')).drop 1)

/-- A request whose pattern must not be blank. -/
def needingPattern (verb pattern : String) (request : String → Request) : Request :=
  match Command.requirePattern? pattern with
  | some pattern => request pattern
  | none => invalid (.emptyPattern verb)

/-- The request of a verb and the text behind it. -/
def ofVerb (verb rest : String) : Request :=
  match verb with
  | "parse" => needingPattern verb rest fun pattern => run (.parse pattern)
  | "explain" => needingPattern verb rest fun pattern => run (.explain pattern)
  | "match" => needingPattern verb rest candidates
  | "help" | "?" => help
  | "quit" | "exit" => quit
  | _ => invalid (.unknownVerb verb)

/-- The request of a line. -/
def ofLine (line : List Char) : Request :=
  let line := dropLineEnd line
  if allBlank line then blank
  else
    let (verb, rest) := splitVerb (trimStart line)
    ofVerb (String.ofList verb) (String.ofList rest)

end Request

end InspectionHost.Session
