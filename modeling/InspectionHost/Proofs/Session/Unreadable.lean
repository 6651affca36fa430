import InspectionHost.Proofs.Session.Answers
import InspectionHost.Proofs.Session.Commands

/-!
# A line that is no text

A line of the input that is no text ends a session, in whichever mode it is met. Up to there the
session has done what it does when the lines in front are all of its input: it asks for one line
more, and where that line is no text the session ends, and where there is none the loops come to
their ends. The same holds of a loop over candidates that stands alone.

Both follow from one fact about lines in front of others: they have turns of their own, which are
played whatever follows them, and behind them the loop goes on with the rest. The turns are aborted
only by whoever answers.

## Main definitions

* `Reading.behindLines` : a reading behind several lines.
* `Mode.words`, `Mode.closing` : what is written before a line is read, and at the end of the input.
* `Stops` : how a loop ends at a line that is no text, beside the loop over the lines in front.

## Main results

* `Mode.exists_turns_of_behind`, `Reading.exists_turns_ofCandidates` : lines have turns of their
  own.
* `stops_serve`, `stops_serveCandidates` : a line that is no text stops a loop.
-/

namespace InspectionHost.Session

open InspectionHost.Text

/-! ### Turns of lines -/

namespace Reading

/-- A reading behind several lines and their turns. -/
def behindLines (r : Reading) (count : Nat) (turns : List Turn) : Reading :=
  ⟨turns ++ r.turns, r.fault, count + r.count⟩

theorem behindLines_behind (r : Reading) (count : Nat) (turns first : List Turn) :
    (r.behindLines count turns).behind first = r.behindLines (count + 1) (first ++ turns) := by
  simp only [behindLines, behind, List.append_assoc, mk.injEq, true_and]
  omega

/-- The turns of lines are played, and then those of the rest. -/
theorem perform_behindLines {σ : Type} (ask : σ → Command → Except Abort Outcome × σ) (json : Bool)
    (r : Reading) (turns : List Turn) (p : Progress σ) (lines rest : List (List UInt8)) :
    (r.behindLines lines.length turns).perform ask json p (lines ++ rest) =
      match p.play ask json turns with
      | (some abort, p) => (.error abort, p.state)
      | (none, p) => r.perform ask json p rest := by
  simp only [perform, behindLines, Progress.play_append]
  rcases p.play ask json turns with ⟨_ | abort, q⟩
  · simp only [List.drop_length_add_append]
  · rfl

end Reading

namespace Mode

/-- What is written before a line is read. -/
def words : Mode → String
  | top => requestPrompt
  | loop _ => candidatePrompt

/-- What is written behind that at the end of the input: a loop leads back to the top. -/
def closing : Mode → String
  | top => ""
  | loop _ => requestPrompt

variable {m next : Mode}

/-- Lines have turns of their own, whatever follows them. -/
theorem exists_turns_of_behind {lines : List (List Char)} (h : m.behind lines = some next) :
    ∃ turns, ∀ rest, m.run (lines.map some ++ rest) =
      (next.run rest).behindLines lines.length turns := by
  induction lines generalizing m with
  | nil =>
    obtain rfl : m = next := Option.some.inj h
    exact ⟨[], fun rest => by simp [Reading.behindLines]⟩
  | cons line lines ih =>
    rw [behind, List.foldlM_cons] at h
    obtain ⟨mid, hmid, hlines⟩ := Option.bind_eq_some_iff.1 h
    obtain ⟨turns, hturns⟩ := ih hlines
    refine ⟨m.prompt :: (m.read line).1 ++ turns, fun rest => ?_⟩
    have hread : m.read line = ((m.read line).1, some mid) := Prod.ext rfl hmid
    rw [List.map_cons, List.cons_append, run_cons hread, hturns, List.length_cons,
      Reading.behindLines_behind]

end Mode

/-- Candidates have turns of their own if none of them is blank, whatever follows them. -/
theorem Reading.exists_turns_ofCandidates (pattern : String) {texts : List (List Char)}
    (visible : ∀ text ∈ texts, allBlank text = false) :
    ∃ turns, ∀ rest, ofCandidates pattern (texts.map some ++ rest) =
      (ofCandidates pattern rest).behindLines texts.length turns := by
  induction texts with
  | nil => exact ⟨[], fun rest => by simp [behindLines]⟩
  | cons text texts ih =>
    obtain ⟨first, later⟩ := List.forall_mem_cons.1 visible
    obtain ⟨turns, hturns⟩ := ih later
    let candidate := String.ofList (dropLineEnd text)
    refine ⟨[(Mode.loop pattern).prompt, .call (.matching pattern candidate)] ++ turns,
      fun rest => ?_⟩
    rw [List.map_cons, List.cons_append, ofCandidates, if_neg (by simp [first]), hturns,
      List.length_cons, behindLines_behind]

/-! ### The end at a line that is no text -/

/-- How a loop over lines ends that meets a line that is no text, beside the loop over the lines in
front alone. Either whoever answers is aborted, and both leave its state; or both are in the same
state when they ask for the line behind, and have made the same calls. Then the one fails and reads
nothing more, and the other closes its loops. -/
inductive Stops {σ : Type} (ask : σ → Command → Except Abort Outcome × σ) (prompt closing : String)
    (unread : List UInt8) : Except Abort Exchange × σ → Except Abort Exchange × σ → Prop where
  | aborted (abort : Abort) (s : σ) (cause : ∃ s' command, ask s' command = (.error abort, s)) :
    Stops ask prompt closing unread (.error abort, s) (.error abort, s)
  | stopped (written : String) (calls : Nat) (s : σ) :
    Stops ask prompt closing unread (.ok ⟨written ++ prompt ++ closing, calls, none, []⟩, s)
      (.ok ⟨written ++ prompt, calls, some (.io .invalidUtf8), unread⟩, s)

section Stops

variable {σ : Type} (ask : σ → Command → Except Abort Outcome × σ) (json : Bool)
  {input bad : List UInt8} {lines rest : List (List UInt8)} {texts : List (List Char)} {m : Mode}

theorem text_write (p : Progress σ) (text : String) : (p.write text).text = p.text ++ text := by
  simp [Progress.write, Progress.text, String.join_append, String.join_cons]

theorem answers_of_ask :
    Answers ask (fun _ => True) fun abort s => ∃ s' command, ask s' command = (.error abort, s) :=
  fun s command _ => ⟨trivial, fun _ given => ⟨s, command, Prod.ext given rfl⟩⟩

theorem perform_run_nil (m : Mode) (p : Progress σ) :
    (m.run []).perform ask json p [] =
      (.ok ⟨p.text ++ m.words ++ m.closing, p.calls, none, []⟩, p.state) := by
  cases m with
  | top =>
    rw [Mode.closing, String.append_empty, ← text_write]
    rfl
  | loop pattern =>
    rw [← text_write, ← text_write]
    rfl

theorem perform_run_none_cons (m : Mode) (p : Progress σ) (bad : List UInt8)
    (texts : List (Option (List Char))) (rest : List (List UInt8)) :
    (m.run (none :: texts)).perform ask json p (bad :: rest) =
      (.ok ⟨p.text ++ m.words, p.calls, some (.io .invalidUtf8), rest.flatten⟩, p.state) := by
  rw [Mode.run_none_cons, ← text_write]
  cases m <;> rfl

/-- Lines have the same turns whether the input ends behind them or a line that is no text stands
there. What is done behind the turns makes the difference. -/
theorem stops_of_behindLines {prompt closing : String} {r r' : Reading}
    (closes : ∀ p : Progress σ, r.perform ask json p [] =
      (.ok ⟨p.text ++ prompt ++ closing, p.calls, none, []⟩, p.state))
    (fails : ∀ p : Progress σ, r'.perform ask json p (bad :: rest) =
      (.ok ⟨p.text ++ prompt, p.calls, some (.io .invalidUtf8), rest.flatten⟩, p.state))
    (turns : List Turn) (p : Progress σ) :
    Stops ask prompt closing rest.flatten
      ((r.behindLines lines.length turns).perform ask json p (lines ++ []))
      ((r'.behindLines lines.length turns).perform ask json p (lines ++ bad :: rest)) := by
  have aborted := abort_of_play (answers_of_ask ask) json turns (p := p) trivial
  rw [Reading.perform_behindLines, Reading.perform_behindLines]
  rcases played : p.play ask json turns with ⟨_ | abort, q⟩ <;> rw [played] at aborted
  · dsimp only
    rw [closes, fails]
    exact .stopped q.text q.calls q.state
  · exact .aborted abort q.state (aborted abort rfl)

variable (cut : cutBehind 0x0A input = lines ++ bad :: rest)
  (decoded : lines.map Utf8.decode? = texts.map some) (unreadable : Utf8.decode? bad = none)

include cut in
theorem cutBehind_flatten_of_cut : cutBehind 0x0A lines.flatten = lines ++ [] := by
  rw [← List.append_nil lines.flatten, cutBehind_append_of_cut cut, cutBehind]

include decoded in
theorem length_eq_of_decoded : texts.length = lines.length := by
  rw [← List.length_map (f := some), ← decoded, List.length_map]

include cut decoded unreadable

/-- A line that is no text stops a session in the mode in which it is met. -/
theorem stops_serve (reached : Mode.top.behind texts = some m) (s : σ) :
    Stops ask m.words m.closing rest.flatten (serve ask json s lines.flatten)
      (serve ask json s input) := by
  obtain ⟨turns, hturns⟩ := Mode.exists_turns_of_behind reached
  rw [serve_eq_perform, serve_eq_perform, cutBehind_flatten_of_cut cut, cut, List.map_append,
    List.map_append, decoded, hturns, hturns, length_eq_of_decoded decoded, List.map_cons,
    unreadable]
  exact stops_of_behindLines ask json (perform_run_nil ask json m)
    (fun p => perform_run_none_cons ask json m p bad _ rest) turns (.start s)

/-- A line that is no text stops a loop over candidates. -/
theorem stops_serveCandidates (visible : ∀ text ∈ texts, allBlank text = false)
    (pattern : String) (s : σ) :
    Stops ask candidatePrompt "" rest.flatten (serveCandidates ask json pattern s lines.flatten)
      (serveCandidates ask json pattern s input) := by
  obtain ⟨turns, hturns⟩ := Reading.exists_turns_ofCandidates pattern visible
  rw [serveCandidates_eq_perform, serveCandidates_eq_perform, cutBehind_flatten_of_cut cut, cut,
    List.map_append, List.map_append, decoded, hturns, hturns, length_eq_of_decoded decoded,
    List.map_cons, unreadable]
  refine stops_of_behindLines ask json (fun p => ?_) (fun p => ?_) turns (.start s)
  · rw [String.append_empty, ← text_write]
    rfl
  · rw [← text_write]
    rfl

end Stops

end InspectionHost.Session
