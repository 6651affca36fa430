import InspectionHost.Outcome
import InspectionHost.Text.Blank

/-!
# Verdicts

The text of a client call is classified by how it begins, blank ends aside.

## Main definitions

* `Verdict` : the classes of outcomes, with the text that a class carries.
* `Outcome.verdict` : the class of an outcome.
-/

namespace InspectionHost

/-- What a client said about a pattern. -/
inductive Verdict where
  /-- The pattern is fine, or matches. -/
  | ok
  /-- The pattern does not parse; the text is the client's hint. -/
  | parseError (text : String)
  /-- The engine server failed; the text is the client's explanation. -/
  | serviceError (text : String)
  /-- Any other answer. -/
  | other (text : String)
  /-- The client wrote nothing but blanks. -/
  | empty
  /-- The call failed. -/
  | unavailable
  deriving DecidableEq, Repr

namespace Verdict

/-- The answer of a client that accepts. -/
def okWord : List Char := ['O', 'K']

/-- The words before the hint of a parse error. -/
def parseErrorWords : List Char := "Parse error:".toList

/-- The words before the explanation of a service error. -/
def serviceErrorWords : List Char := "Service error:".toList

/-- The text behind the given words, if a text begins with them. -/
def behind? : List Char → List Char → Option (List Char)
  | [], cs => some cs
  | _ :: _, [] => none
  | w :: ws, c :: cs => if w = c then behind? ws cs else none

/-- The class of a text without blank ends. -/
def ofTrimmed (cs : List Char) : Verdict :=
  if cs.isEmpty then empty
  else if cs = okWord ∨ (behind? (okWord ++ [' ']) cs).isSome then ok
  else match behind? parseErrorWords cs with
    | some rest => parseError (String.ofList (Text.trim rest))
    | none => match behind? serviceErrorWords cs with
      | some rest => serviceError (String.ofList (Text.trim rest))
      | none => other (String.ofList cs)

end Verdict

namespace Outcome

/-- The class of an outcome. -/
def verdict : Outcome → Verdict
  | output text => Verdict.ofTrimmed (Text.trim text.toList)
  | failure _ => .unavailable

end Outcome

end InspectionHost
