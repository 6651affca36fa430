import InspectionHost.HostError
import InspectionHost.Outcome
import InspectionHost.Session.Request
import InspectionHost.Sink
import InspectionHost.Text.Utf8

/-!
# Turns of a session

A session reads its input line by line, and does something with every line: it writes a line, or
it hands a command to somebody who answers, and writes the line of the outcome before the next line
is read. Whoever answers has a state of its own, which a command may change, and may be aborted. A
host that calls its client is one who answers.

## Main definitions

* `splitLines` : the lines of an input, each with its line feed.
* `candidate?` : the candidate of a line.
* `Exchange` : what an action has done.
* `Progress` : what a session has done so far.
* `Progress.call` : a command, and what is written for it.
-/

namespace InspectionHost

/-- What an action has done. -/
structure Exchange where
  /-- What was written. -/
  written : String
  /-- How many calls were made. -/
  calls : Nat
  error : Option RunError
  /-- The input that was not read. -/
  unread : List UInt8

/-- The line that is written for an outcome. -/
def Outcome.line (o : Outcome) (json : Bool) : String :=
  (if json then o.json else o.displayText) ++ "\n"

namespace Session

open InspectionHost.Text

/-! ### Lines -/

/-- The lines of an input, each up to and including its line feed; the last may have none. The
lines that are complete come first, the last first, and then the line being read, backwards. -/
def splitLinesOnto (done : List (List UInt8)) (current : List UInt8) :
    List UInt8 → List (List UInt8)
  | [] => (if current.isEmpty then done else current.reverse :: done).reverse
  | b :: bs =>
    if b = 0x0A then splitLinesOnto ((b :: current).reverse :: done) [] bs
    else splitLinesOnto done (b :: current) bs

/-- The lines of an input, each up to and including its line feed; the last may have none. -/
def splitLines (input : List UInt8) : List (List UInt8) :=
  splitLinesOnto [] [] input

/-- The candidate of a line, unless the line is blank. -/
def candidate? (line : List Char) : Option String :=
  let line := dropLineEnd line
  if allBlank line then none else some (String.ofList line)

/-! ### Progress -/

/-- What is written before a candidate is read. -/
def candidatePrompt : String := "candidate> "

/-- What is written before a request is read. -/
def requestPrompt : String := "rwp> "

/-- The list of the verbs. -/
def helpLine : String :=
  "commands: parse <pattern> | explain <pattern> | match <pattern> | quit"

/-- What a session has done so far. -/
structure Progress (σ : Type) where
  /-- The state of whoever answers. -/
  state : σ
  /-- What was written, the last piece first. -/
  written : List String
  /-- How many calls were made. -/
  calls : Nat

variable {σ : Type} (ask : σ → Command → Except Abort Outcome × σ) (json : Bool)

namespace Progress

/-- Nothing is done. -/
def start (s : σ) : Progress σ := ⟨s, [], 0⟩

/-- Something is written. -/
def write (p : Progress σ) (text : String) : Progress σ :=
  { p with written := text :: p.written }

/-- A line is written. -/
def writeLine (p : Progress σ) (line : String) : Progress σ :=
  p.write (line ++ "\n")

/-- A command is answered and the outcome written, unless whoever answers is aborted. -/
def call (p : Progress σ) (command : Command) : Option Abort × Progress σ :=
  match ask p.state command with
  | (.error abort, s) => (some abort, { p with state := s })
  | (.ok outcome, s) => (none, ⟨s, outcome.line json :: p.written, p.calls + 1⟩)

/-- What was written. -/
def text (p : Progress σ) : String :=
  String.join p.written.reverse

/-- What a loop has done that ends with an error or without one. -/
def exchange (p : Progress σ) (error : Option RunError) (unread : List (List UInt8)) : Exchange :=
  ⟨p.text, p.calls, error, unread.flatten⟩

end Progress

end Session

end InspectionHost
