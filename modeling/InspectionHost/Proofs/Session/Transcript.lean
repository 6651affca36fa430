import InspectionHost.Proofs.Session.Automaton

/-!
# The transcript of a session

Whoever answers the commands of a session may answer each by everything that was asked before. With
a record of the commands beside the answers, the turns of a session determine what is asked and
what is written: the prompts and lines of the session, and the line of each outcome where its
command stands. Whoever answers by a state of its own answers by what was asked before, so every
session that is not aborted is one with a record.

## Main definitions

* `recording` : answers, with a record of the commands.
* `transcript` : what is written.
* `stateBehind` : the state of whoever answers, behind commands.

## Main results

* `perform_recording` : what comes of a reading of lines.
* `serve_eq_recording` : a session that is not aborted is one with a record of the commands.
* `serve_eq_automaton` : a session is the automaton over the lines of its input.
-/

namespace InspectionHost.Session

open InspectionHost.Text

/-- Answers by a rule, with a record of the commands in order. -/
def recording (answer : List Command → Command → Outcome) (done : List Command)
    (command : Command) : Except Abort Outcome × List Command :=
  (.ok (answer done command), done ++ [command])

/-- The pieces that are written in turns, behind commands that were asked before. -/
def transcript (answer : List Command → Command → Outcome) (json : Bool) (done : List Command) :
    List Turn → List String
  | [] => []
  | .prompt words :: rest => words :: transcript answer json done rest
  | .say line :: rest => (line ++ "\n") :: transcript answer json done rest
  | .call command :: rest =>
    (answer done command).line json :: transcript answer json (done ++ [command]) rest

variable (answer : List Command → Command → Outcome) (json : Bool)

/-- Every command of turns is asked once, and the transcript is written behind what was written
before. -/
theorem play_recording (p : Progress (List Command)) (turns : List Turn) :
    p.play (recording answer) json turns =
      (none, ⟨p.state ++ turns.filterMap Turn.command?,
        (transcript answer json p.state turns).reverse ++ p.written,
        p.calls + (turns.filterMap Turn.command?).length⟩) := by
  induction turns generalizing p with
  | nil => simp [Progress.play, transcript]
  | cons turn turns ih =>
    cases turn with
    | prompt words =>
      simp [Progress.play, Progress.write, transcript, List.filterMap_cons, Turn.command?, ih]
    | say line =>
      simp [Progress.play, Progress.writeLine, Progress.write, transcript, List.filterMap_cons,
        Turn.command?, ih]
    | call command =>
      have hcount (n : Nat) : p.calls + 1 + n = p.calls + (n + 1) := by omega
      simp [Progress.play, Progress.call, recording, transcript, Turn.command?, ih, hcount]

/-- A reading of lines asks its commands and writes its transcript, and tells their number. -/
theorem perform_recording (r : Reading) (lines : List (List UInt8)) :
    r.perform (recording answer) json (.start []) lines =
      (.ok ⟨String.join (transcript answer json [] r.turns), r.commands.length,
        r.fault.map .io, (lines.drop r.count).flatten⟩, r.commands) := by
  rw [Reading.perform, play_recording]
  simp [Progress.start, Progress.exchange, Progress.text, Reading.commands]

/-! ### Answers by a state -/

section State

variable {σ : Type} {ask : σ → Command → Except Abort Outcome × σ} {answer} {s : σ}

/-- The state of whoever answers, behind commands. -/
def stateBehind (ask : σ → Command → Except Abort Outcome × σ) (s : σ) (commands : List Command) :
    σ :=
  commands.foldl (fun s command => (ask s command).2) s

theorem stateBehind_concat (ask : σ → Command → Except Abort Outcome × σ) (s : σ)
    (commands : List Command) (command : Command) :
    stateBehind ask s (commands ++ [command]) = (ask (stateBehind ask s commands) command).2 := by
  simp [stateBehind]

theorem stateBehind_induction {I : σ → Prop} (step : ∀ s command, I s → I (ask s command).2)
    (start : I s) (commands : List Command) : I (stateBehind ask s commands) := by
  induction commands generalizing s with
  | nil => exact start
  | cons command rest ih => exact ih (step s command start)

/-- Turns that are not aborted write what is written with a record of the commands, if the record
answers as the state behind the commands does. -/
theorem play_eq_recording (json : Bool)
    (agrees : ∀ done command outcome, (ask (stateBehind ask s done) command).1 = .ok outcome →
      outcome = answer done command)
    (turns : List Turn) {p : Progress σ} {q : Progress (List Command)}
    (state : p.state = stateBehind ask s q.state) (written : p.written = q.written)
    (calls : p.calls = q.calls) :
    (∃ abort, (p.play ask json turns).1 = some abort) ∨ (p.play ask json turns).1 = none ∧
      (p.play ask json turns).2.written = (q.play (recording answer) json turns).2.written ∧
      (p.play ask json turns).2.calls = (q.play (recording answer) json turns).2.calls := by
  induction turns generalizing p q with
  | nil => exact .inr ⟨rfl, written, calls⟩
  | cons turn turns ih =>
    cases turn with
    | prompt words =>
      exact ih (p := p.write words) (q := q.write words) state
        (congrArg (words :: ·) written) calls
    | say line =>
      exact ih (p := p.writeLine line) (q := q.writeLine line) state
        (congrArg ((line ++ "\n") :: ·) written) calls
    | call command =>
      rcases hask : ask p.state command with ⟨abort | outcome, t⟩
      · exact .inl ⟨abort, by simp only [Progress.play, Progress.call, hask]⟩
      · have same : outcome = answer q.state command :=
          agrees q.state command outcome (by rw [← state, hask])
        have behind : t = stateBehind ask s (q.state ++ [command]) := by
          rw [stateBehind_concat, ← state, hask]
        simp only [Progress.play, Progress.call, hask, recording]
        exact ih behind (by rw [same, written]) (by rw [calls])

/-- A session that is not aborted writes what is written with a record of the commands, if the
record answers as the state behind the commands does. -/
theorem serve_eq_recording
    (agrees : ∀ done command outcome, (ask (stateBehind ask s done) command).1 = .ok outcome →
      outcome = answer done command) (input : List UInt8) :
    (∃ abort, (serve ask json s input).1 = .error abort) ∨
      (serve ask json s input).1 = (serve (recording answer) json [] input).1 := by
  rw [serve_eq_perform, serve_eq_perform, Reading.perform, Reading.perform]
  let turns := (Mode.top.run ((cutBehind 0x0A input).map Utf8.decode?)).turns
  rcases played : (Progress.start s).play ask json turns with ⟨result, p⟩
  rcases recorded : (Progress.start []).play (recording answer) json turns with ⟨result', q⟩
  obtain rfl : none = result' :=
    congrArg Prod.fst ((play_recording answer json (.start []) turns).symm.trans recorded)
  have agree := play_eq_recording json agrees turns (p := .start s) (q := .start [])
    rfl rfl rfl
  rw [played, recorded] at agree
  obtain ⟨abort, rfl⟩ | ⟨rfl, written, calls⟩ := agree
  · exact .inl ⟨abort, rfl⟩
  · refine .inr ?_
    dsimp only at written calls
    simp only [Progress.exchange, Progress.text, written, calls]

end State

/-- **A session is an automaton over lines.** Let whoever answers the commands of a session answer
in any way, each command by all that were asked before. Then for every text as the input:

* The commands that are asked are those of the automaton at the lines of the text, each once and in
  order, whatever the answers are.
* What is written is the transcript of the automaton: a prompt before every line that is read and
  before the end of the input, the line of every outcome, and the lines of help and faults.
* The number of the commands is told.
* The lines behind a request to quit are not read, and all others are. -/
theorem serve_eq_automaton (text : List Char) :
    let lines := cutBehind '\n' text
    let r := Mode.top.run (lines.map some)
    serve (recording answer) json [] (Utf8.encode text) =
      (.ok ⟨String.join (transcript answer json [] r.turns), r.commands.length, none,
        Utf8.encode (lines.drop r.count).flatten⟩, r.commands) := by
  intro lines r
  have hfault : r.fault = none := Mode.fault_run_map_some .top lines
  have hunread : ((lines.map Utf8.encode).drop r.count).flatten =
      Utf8.encode (lines.drop r.count).flatten := by
    rw [← List.map_drop, Utf8.encode_flatten]
  calc serve (recording answer) json [] (Utf8.encode text)
      = r.perform (recording answer) json (.start []) (lines.map Utf8.encode) :=
        serve_encode (recording answer) json [] text
    _ = _ := by rw [perform_recording, hunread, hfault, Option.map_none]

/-- A request to quit that stands in a loop is a candidate. -/
example : (Mode.top.run (["match a\n", "quit\n", "\n", "quit\n", "parse b\n"].map
      fun line => some line.toList)) =
    ⟨[.prompt "rwp> ", .prompt "candidate> ", .call (.matching "a" "quit"), .prompt "candidate> ",
      .prompt "rwp> "], none, 4⟩ := by
  decide

end InspectionHost.Session
