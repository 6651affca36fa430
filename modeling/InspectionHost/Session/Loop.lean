import InspectionHost.Session.Turn

/-!
# The loops of a session

A line of a session is a request, which may be answered at once or open a loop over candidates. The
loop over candidates reads from the same lines, up to a blank line or their end. When whoever
answers is aborted, or a line is no text, all loops end at once.

## Main definitions

* `LoopEnd` : where a loop ends.
* `matchLoop` : a loop over candidates.
* `serveLoop` : a loop over requests.
* `serve`, `serveCandidates` : the loops over an input.

## Main results

* `length_unread_matchLoop_le` : a loop over candidates leaves no more lines than it found.
-/

namespace InspectionHost.Session

open InspectionHost.Text

/-- Why a loop ends before its time. -/
inductive Interruption where
  /-- Whoever answers was aborted. -/
  | aborted (abort : Abort)
  /-- A line cannot be read. -/
  | unreadable (error : IoError)
  deriving DecidableEq, Repr

/-- Where a loop ends. -/
structure LoopEnd (σ : Type) where
  progress : Progress σ
  interruption : Option Interruption
  /-- The lines that are not read. -/
  unread : List (List UInt8)

variable {σ : Type} (ask : σ → Command → Except Abort Outcome × σ) (json : Bool)

/-- What a loop has done, unless it was aborted. -/
def LoopEnd.exchange (e : LoopEnd σ) : Except Abort Exchange × σ :=
  match e.interruption with
  | some (.aborted abort) => (.error abort, e.progress.state)
  | some (.unreadable error) =>
    (.ok (e.progress.exchange (some (.io error)) e.unread), e.progress.state)
  | none => (.ok (e.progress.exchange none e.unread), e.progress.state)

/-- A loop over candidates: every line is a candidate for the pattern, up to a blank line or the
end. -/
def matchLoop (pattern : String) (p : Progress σ) : List (List UInt8) → LoopEnd σ
  | [] => ⟨p.write candidatePrompt, none, []⟩
  | line :: rest =>
    match Utf8.decode? line with
    | none => ⟨p.write candidatePrompt, some (.unreadable .invalidUtf8), rest⟩
    | some text =>
      match candidate? text with
      | none => ⟨p.write candidatePrompt, none, rest⟩
      | some candidate =>
        match (p.write candidatePrompt).call ask json (.matching pattern candidate) with
        | (some abort, p) => ⟨p, some (.aborted abort), rest⟩
        | (none, p) => matchLoop pattern p rest

/-- A loop over candidates leaves no more lines than it found. -/
theorem length_unread_matchLoop_le (pattern : String) (p : Progress σ)
    (lines : List (List UInt8)) :
    (matchLoop ask json pattern p lines).unread.length ≤ lines.length := by
  induction lines generalizing p with
  | nil => simp [matchLoop]
  | cons line rest ih =>
    rw [matchLoop]
    split
    · simp
    · split
      · simp
      · split
        · simp
        · exact Nat.le_succ_of_le (ih _)

/-- A loop over requests: every line is a request, up to a request to quit or the end. -/
def serveLoop (p : Progress σ) : List (List UInt8) → LoopEnd σ
  | [] => ⟨p.write requestPrompt, none, []⟩
  | line :: rest =>
    let p := p.write requestPrompt
    match Utf8.decode? line with
    | none => ⟨p, some (.unreadable .invalidUtf8), rest⟩
    | some text =>
      match Request.ofLine text with
      | .run command =>
        match p.call ask json command with
        | (some abort, p) => ⟨p, some (.aborted abort), rest⟩
        | (none, p) => serveLoop p rest
      | .candidates pattern =>
        let loop := matchLoop ask json pattern p rest
        match loop.interruption with
        | some _ => loop
        | none => serveLoop loop.progress loop.unread
      | .help => serveLoop (p.writeLine helpLine) rest
      | .quit => ⟨p, none, rest⟩
      | .blank => serveLoop p rest
      | .invalid fault => serveLoop (p.writeLine fault.message) rest
termination_by lines => lines.length
decreasing_by
  all_goals simp only [List.length_cons]
  all_goals first
    | omega
    | exact Nat.lt_succ_of_le (length_unread_matchLoop_le ..)

/-- Serve the requests of an input. -/
def serve (s : σ) (input : List UInt8) : Except Abort Exchange × σ :=
  (serveLoop ask json (.start s) (splitLines input)).exchange

/-- Serve the candidates of an input for a pattern. -/
def serveCandidates (pattern : String) (s : σ) (input : List UInt8) : Except Abort Exchange × σ :=
  (matchLoop ask json pattern (.start s) (splitLines input)).exchange

end InspectionHost.Session
