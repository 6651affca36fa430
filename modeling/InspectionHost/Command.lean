import InspectionHost.Json.Text
import InspectionHost.Text.Blank

/-!
# Commands for the inspection client

A command asks the client one question about a pattern. It maps to one fixed command line: the
program, the name of the question, the pattern, and for a match the candidate.

## Main definitions

* `Command` : the three questions.
* `Command.arguments`, `Command.commandLine` : what the client is started with.
* `Command.json` : the written form of a command.
* `Command.requirePattern?` : the check that a pattern is not blank.
-/

namespace InspectionHost

/-- A question for the inspection client. -/
inductive Command where
  /-- Whether the pattern parses. -/
  | parse (pattern : String)
  /-- Whether the pattern matches the candidate. -/
  | matching (pattern candidate : String)
  /-- What the pattern means. -/
  | explain (pattern : String)
  deriving DecidableEq, Repr

namespace Command

/-- The program that answers commands unless another one is configured. -/
def defaultProgram : String := "wr22-client"

/-- The first argument of the client, which names the question. -/
def subcommand : Command → String
  | parse _ => "parse"
  | matching _ _ => "match"
  | explain _ => "explain"

/-- The pattern that the question is about. -/
def pattern : Command → String
  | parse pattern => pattern
  | matching pattern _ => pattern
  | explain pattern => pattern

/-- The arguments of the client. Texts are passed as they are, also when empty. -/
def arguments : Command → List String
  | c@(parse pattern) => [c.subcommand, pattern]
  | c@(matching pattern candidate) => [c.subcommand, pattern, candidate]
  | c@(explain pattern) => [c.subcommand, pattern]

/-- The program followed by the arguments. -/
def commandLine (c : Command) (program : String) : List String :=
  program :: c.arguments

/-- The named fields of the written form, in order. -/
def fields : Command → List (String × String)
  | c@(parse pattern) => [("command", c.subcommand), ("pattern", pattern)]
  | c@(matching pattern candidate) =>
    [("command", c.subcommand), ("pattern", pattern), ("candidate", candidate)]
  | c@(explain pattern) => [("command", c.subcommand), ("pattern", pattern)]

/-- The written form of a command: a JSON object without blanks. -/
def json (c : Command) : String :=
  String.ofList (Json.object (c.fields.map fun (name, text) => (name, Json.quote text.toList)))

theorem ge_space_of_mem_json {command : Command} {c : Char} (h : c ∈ command.json.toList) :
    0x20 ≤ c.toNat := by
  rw [json, String.toList_ofList] at h
  refine Json.ge_space_of_mem_object (fun member there c hc => ?_) h
  obtain ⟨⟨name, text⟩, -, rfl⟩ := List.mem_map.1 there
  exact Json.ge_space_of_mem_quote hc

/-- A pattern that is not blank, or nothing. -/
def requirePattern? (pattern : String) : Option String :=
  if Text.allBlank pattern.toList then none else some pattern

end Command

end InspectionHost
