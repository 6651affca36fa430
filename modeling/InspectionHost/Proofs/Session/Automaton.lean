import InspectionHost.Proofs.Session.Lines

/-!
# A session is an automaton over lines

A session has two modes. At the top a line is a request, and in a loop it is a candidate for the
pattern of the loop. A line and the mode determine what is done, and which mode is next: a request
for candidates leads into a loop, and a blank line or the end of the input leads out of it. The
automaton of these modes reads lines and tells the turns of the session, and never hears an answer.

The two loops of a session, one within the other, do together what is told by the automaton, up to
the first command that is not answered: this is proved for whoever answers, by one induction over
the lines for both modes.

## Main definitions

* `Turn` : one thing that a session does.
* `Mode` : the modes.
* `Mode.read` : what is done with a line, and the mode behind it.
* `Mode.run` : what is done with all lines.
* `Reading.ofCandidates` : what is done with lines in a loop behind which nothing is read.
* `Progress.play` : turns with somebody who answers.

## Main results

* `serveIn_cons` : a line in a mode, and the loops behind it.
* `exchange_serveIn` : the loops of a session do what the automaton tells.
* `serve_eq_perform` : a session does what the automaton tells.
* `serve_encode` : the same for a text.
* `serveCandidates_eq_perform` : so does a loop over candidates alone.
-/

namespace InspectionHost.Session

open InspectionHost.Text

/-! ### The automaton -/

/-- One thing that a session does. -/
inductive Turn where
  /-- Ask for a line. -/
  | prompt (words : String)
  /-- Write a line. -/
  | say (line : String)
  /-- Hand a command to whoever answers, and write the outcome. -/
  | call (command : Command)
  deriving DecidableEq, Repr

/-- The command of a turn. -/
def Turn.command? : Turn → Option Command
  | call command => some command
  | prompt _ | say _ => none

/-- What a session takes a line for. -/
inductive Mode where
  /-- A line is a request. -/
  | top
  /-- A line is a candidate for the pattern. -/
  | loop (pattern : String)
  deriving DecidableEq, Repr

/-- What is done with lines. -/
structure Reading where
  turns : List Turn
  /-- The error that ends the reading, if one does. -/
  fault : Option IoError
  /-- How many lines are read. -/
  count : Nat
  deriving DecidableEq, Repr

namespace Reading

/-- The commands of a reading, in order. -/
def commands (r : Reading) : List Command :=
  r.turns.filterMap Turn.command?

/-- A reading behind one line more and its turns. -/
def behind (r : Reading) (turns : List Turn) : Reading :=
  ⟨turns ++ r.turns, r.fault, r.count + 1⟩

@[simp] theorem turns_behind (r : Reading) (turns : List Turn) :
    (r.behind turns).turns = turns ++ r.turns :=
  rfl

@[simp] theorem fault_behind (r : Reading) (turns : List Turn) :
    (r.behind turns).fault = r.fault :=
  rfl

@[simp] theorem count_behind (r : Reading) (turns : List Turn) :
    (r.behind turns).count = r.count + 1 :=
  rfl

@[simp] theorem commands_behind (r : Reading) (turns : List Turn) :
    (r.behind turns).commands = turns.filterMap Turn.command? ++ r.commands :=
  List.filterMap_append

end Reading

namespace Mode

/-- What is written before a line is read. -/
def prompt : Mode → Turn
  | top => .prompt "rwp> "
  | loop _ => .prompt "candidate> "

/-- What is done with a line, and the mode behind it. A request to quit leaves none. -/
def read : Mode → List Char → List Turn × Option Mode
  | top, line =>
    match Request.ofLine line with
    | .run command => ([.call command], some top)
    | .candidates pattern => ([], some (loop pattern))
    | .help => ([.say helpLine], some top)
    | .quit => ([], none)
    | .blank => ([], some top)
    | .invalid fault => ([.say fault.message], some top)
  | loop pattern, line =>
    if allBlank line then ([], some top)
    else ([.call (.matching pattern (String.ofList (dropLineEnd line)))], some (loop pattern))

/-- What is done with lines, where `none` is a line that is no text. The end of the input ends the
session, and before that the loop that is under way. -/
def run : Mode → List (Option (List Char)) → Reading
  | top, [] => ⟨[top.prompt], none, 0⟩
  | loop pattern, [] => ⟨[(loop pattern).prompt, top.prompt], none, 0⟩
  | m, none :: _ => ⟨[m.prompt], some .invalidUtf8, 1⟩
  | m, some line :: rest =>
    match m.read line with
    | (turns, none) => ⟨m.prompt :: turns, none, 1⟩
    | (turns, some next) => (next.run rest).behind (m.prompt :: turns)

variable {m next : Mode} {line : List Char} {turns : List Turn}

theorem run_cons (h : m.read line = (turns, some next)) (rest : List (Option (List Char))) :
    m.run (some line :: rest) = (next.run rest).behind (m.prompt :: turns) := by
  cases m <;> simp only [run, h]

theorem run_cons_of_quit (h : m.read line = (turns, none)) (rest : List (Option (List Char))) :
    m.run (some line :: rest) = ⟨m.prompt :: turns, none, 1⟩ := by
  cases m <;> simp only [run, h]

/-- Behind a line that is no text nothing is read. -/
theorem run_none_cons (m : Mode) (rest : List (Option (List Char))) :
    m.run (none :: rest) = ⟨[m.prompt], some .invalidUtf8, 1⟩ := by
  cases m <;> rfl

theorem read_eq_none (h : m.read line = (turns, none)) :
    m = top ∧ Request.ofLine line = .quit ∧ turns = [] := by
  cases m with
  | loop pattern =>
    simp only [read] at h
    split at h <;> simp at h
  | top => cases asked : Request.ofLine line <;> simp_all [read]

theorem fault_run_map_some (m : Mode) (texts : List (List Char)) :
    (m.run (texts.map some)).fault = none := by
  induction texts generalizing m with
  | nil => cases m <;> rfl
  | cons text texts ih =>
    rw [List.map_cons]
    rcases hread : m.read text with ⟨turns, _ | next⟩
    · rw [run_cons_of_quit hread]
    · rw [run_cons hread, Reading.fault_behind, ih]

end Mode

/-! ### Playing turns -/

section Play

variable {σ : Type} (ask : σ → Command → Except Abort Outcome × σ) (json : Bool)

/-- Turns with somebody who answers, up to the first command that is not answered. -/
def Progress.play (p : Progress σ) : List Turn → Option Abort × Progress σ
  | [] => (none, p)
  | .prompt words :: rest => (p.write words).play rest
  | .say line :: rest => (p.writeLine line).play rest
  | .call command :: rest =>
    match p.call ask json command with
    | (some abort, p) => (some abort, p)
    | (none, p) => p.play rest

/-- Turns behind turns are played if all commands are answered. -/
theorem Progress.play_append (p : Progress σ) (turns rest : List Turn) :
    p.play ask json (turns ++ rest) =
      match p.play ask json turns with
      | (some abort, p) => (some abort, p)
      | (none, p) => p.play ask json rest := by
  induction turns generalizing p with
  | nil => rfl
  | cons turn turns ih =>
    cases turn with
    | prompt words => exact ih _
    | say line => exact ih _
    | call command =>
      simp only [List.cons_append, play]
      rcases p.call ask json command with ⟨_ | abort, q⟩
      · exact ih q
      · rfl

/-- A reading of lines with somebody who answers. -/
def Reading.perform (r : Reading) (p : Progress σ) (lines : List (List UInt8)) :
    Except Abort Exchange × σ :=
  match p.play ask json r.turns with
  | (some abort, p) => (.error abort, p.state)
  | (none, p) => (.ok (p.exchange (r.fault.map .io) (lines.drop r.count)), p.state)

theorem Reading.perform_behind (r : Reading) (turns : List Turn) (p : Progress σ)
    (line : List UInt8) (rest : List (List UInt8)) :
    (r.behind turns).perform ask json p (line :: rest) =
      match p.play ask json turns with
      | (some abort, p) => (.error abort, p.state)
      | (none, p) => r.perform ask json p rest := by
  rw [perform, turns_behind, Progress.play_append]
  rcases p.play ask json turns with ⟨_ | abort, q⟩
  · rw [fault_behind, count_behind, List.drop_succ_cons]
    rfl
  · rfl

/-! ### The two loops of a session -/

/-- What a session does from a mode on: in a loop, it serves what the loop leaves. -/
def serveIn (m : Mode) (p : Progress σ) (lines : List (List UInt8)) : LoopEnd σ :=
  match m with
  | .top => serveLoop ask json p lines
  | .loop pattern =>
    let loop := matchLoop ask json pattern p lines
    match loop.interruption with
    | some _ => loop
    | none => serveLoop ask json loop.progress loop.unread

/-- A line is blank exactly if it is blank without its line end. -/
theorem allBlank_dropLineEnd (line : List Char) : allBlank (dropLineEnd line) = allBlank line := by
  have hends : (line.reverse.takeWhile isLineEnd).all isBlank = true := by
    rw [List.all_eq_true]
    intro c hc
    exact isBlank_of_isLineEnd (List.all_eq_true.1 List.all_takeWhile c hc)
  calc allBlank (dropLineEnd line)
      = (line.reverse.dropWhile isLineEnd).all isBlank := by
        rw [dropLineEnd, dropEndWhile, allBlank, List.all_reverse]
    _ = (line.reverse.takeWhile isLineEnd ++ line.reverse.dropWhile isLineEnd).all isBlank := by
        rw [List.all_append, hends, Bool.true_and]
    _ = allBlank line := by rw [List.takeWhile_append_dropWhile, List.all_reverse, allBlank]

theorem dropLineEnd_append_of_all {front ends : List Char} (ending : ends.all isLineEnd = true)
    (closed : ∀ c ∈ front.getLast?, isLineEnd c = false) : dropLineEnd (front ++ ends) = front := by
  have hfront : front.reverse.dropWhile isLineEnd = front.reverse := by
    rw [← List.head?_reverse] at closed
    cases hback : front.reverse with
    | nil => rfl
    | cons c cs => rw [List.dropWhile_cons_of_neg (by simp [closed c (by simp [hback])])]
  rw [dropLineEnd, dropEndWhile, List.reverse_append,
    List.dropWhile_append_of_pos (by simpa using ending), hfront, List.reverse_reverse]

theorem candidate?_eq (line : List Char) : candidate? line =
    if allBlank line then none else some (String.ofList (dropLineEnd line)) := by
  rw [candidate?, allBlank_dropLineEnd]

variable {line : List UInt8} {text : List Char} {turns : List Turn} {next : Mode}

/-- A line of a loop is a candidate, or it is blank and ends the loop. -/
theorem serveIn_loop_cons {pattern : String} (decoded : Utf8.decode? line = some text)
    (h : (Mode.loop pattern).read text = (turns, some next)) (p : Progress σ)
    (rest : List (List UInt8)) :
    serveIn ask json (.loop pattern) p (line :: rest) =
      match p.play ask json ((Mode.loop pattern).prompt :: turns) with
      | (some abort, p) => ⟨p, some (.aborted abort), rest⟩
      | (none, p) => serveIn ask json next p rest := by
  by_cases blank : allBlank text
  · simp only [Mode.read, if_pos blank, Prod.mk.injEq, Option.some.injEq] at h
    obtain ⟨rfl, rfl⟩ := h
    simp only [serveIn, matchLoop, decoded, candidate?_eq, if_pos blank]
    rfl
  · simp only [Mode.read, if_neg blank, Prod.mk.injEq, Option.some.injEq] at h
    obtain ⟨rfl, rfl⟩ := h
    simp only [serveIn, matchLoop, decoded, candidate?_eq, if_neg blank, Mode.prompt,
      Progress.play, candidatePrompt]
    rcases (p.write "candidate> ").call ask json _ with ⟨_ | abort, q⟩ <;> rfl

/-- A line at the top is a request, which may lead into a loop. -/
theorem serveIn_top_cons (decoded : Utf8.decode? line = some text)
    (h : Mode.top.read text = (turns, some next)) (p : Progress σ) (rest : List (List UInt8)) :
    serveIn ask json .top p (line :: rest) =
      match p.play ask json (Mode.top.prompt :: turns) with
      | (some abort, p) => ⟨p, some (.aborted abort), rest⟩
      | (none, p) => serveIn ask json next p rest := by
  cases asked : Request.ofLine text with
  | quit => simp [Mode.read, asked] at h
  | run command =>
    simp only [Mode.read, asked, Prod.mk.injEq, Option.some.injEq] at h
    obtain ⟨rfl, rfl⟩ := h
    simp only [serveIn, serveLoop, decoded, asked, Mode.prompt, Progress.play, requestPrompt]
    rcases (p.write "rwp> ").call ask json command with ⟨_ | abort, q⟩ <;> rfl
  | candidates _ | help | blank | invalid _ =>
    simp only [Mode.read, asked, Prod.mk.injEq, Option.some.injEq] at h
    obtain ⟨rfl, rfl⟩ := h
    simp only [serveIn, serveLoop, decoded, asked]
    rfl

/-- A line in a mode leads to the next mode, unless its command is not answered. -/
theorem serveIn_cons {m : Mode} (decoded : Utf8.decode? line = some text)
    (h : m.read text = (turns, some next)) (p : Progress σ) (rest : List (List UInt8)) :
    serveIn ask json m p (line :: rest) =
      match p.play ask json (m.prompt :: turns) with
      | (some abort, p) => ⟨p, some (.aborted abort), rest⟩
      | (none, p) => serveIn ask json next p rest := by
  cases m with
  | top => exact serveIn_top_cons ask json decoded h p rest
  | loop pattern => exact serveIn_loop_cons ask json decoded h p rest

/-- The loops of a session do what the automaton tells. -/
theorem exchange_serveIn (m : Mode) (p : Progress σ) (lines : List (List UInt8)) :
    (serveIn ask json m p lines).exchange =
      (m.run (lines.map Utf8.decode?)).perform ask json p lines := by
  induction lines generalizing m p with
  | nil =>
    cases m with
    | top => simp only [serveIn, serveLoop]; rfl
    | loop pattern => simp only [serveIn, matchLoop, serveLoop]; rfl
  | cons line rest ih =>
    rw [List.map_cons]
    cases decoded : Utf8.decode? line with
    | none =>
      rw [Mode.run_none_cons]
      cases m with
      | top => simp only [serveIn, serveLoop, decoded]; rfl
      | loop pattern => simp only [serveIn, matchLoop, decoded]; rfl
    | some text =>
      rcases hread : m.read text with ⟨turns, _ | next⟩
      · obtain ⟨rfl, asked, rfl⟩ := Mode.read_eq_none hread
        rw [Mode.run_cons_of_quit hread]
        simp only [serveIn, serveLoop, decoded, asked]
        rfl
      · rw [Mode.run_cons hread, Reading.perform_behind, serveIn_cons ask json decoded hread]
        rcases p.play ask json (m.prompt :: turns) with ⟨_ | abort, q⟩
        · exact ih next q
        · rfl

/-- A session does with its input what the automaton tells at the lines of the input. -/
theorem serve_eq_perform (s : σ) (input : List UInt8) :
    let lines := cutBehind 0x0A input
    serve ask json s input =
      (Mode.top.run (lines.map Utf8.decode?)).perform ask json (.start s) lines := by
  intro lines
  rw [serve, splitLines_eq]
  exact exchange_serveIn ask json .top (.start s) lines

/-- A session over a text reads the lines of the text. -/
theorem serve_encode (s : σ) (text : List Char) :
    let lines := cutBehind '\n' text
    serve ask json s (Utf8.encode text) =
      (Mode.top.run (lines.map some)).perform ask json (.start s) (lines.map Utf8.encode) := by
  intro lines
  have hlines : cutBehind 0x0A (Utf8.encode text) = lines.map Utf8.encode := by
    rw [← splitLines_eq, splitLines_encode]
  have hdecoded : (lines.map Utf8.encode).map Utf8.decode? = lines.map some := by
    rw [List.map_map]
    exact List.map_congr_left fun line _ => Utf8.decode?_encode line
  rw [serve_eq_perform, hlines, hdecoded]

/-! ### A loop over candidates alone -/

/-- What is done with lines that are candidates, where the loop over them is all there is. -/
def Reading.ofCandidates (pattern : String) : List (Option (List Char)) → Reading
  | [] => ⟨[(Mode.loop pattern).prompt], none, 0⟩
  | none :: _ => ⟨[(Mode.loop pattern).prompt], some .invalidUtf8, 1⟩
  | some line :: rest =>
    if allBlank line then ⟨[(Mode.loop pattern).prompt], none, 1⟩
    else (ofCandidates pattern rest).behind [(Mode.loop pattern).prompt,
      .call (.matching pattern (String.ofList (dropLineEnd line)))]

/-- A loop over candidates does what the automaton does in a loop. -/
theorem exchange_matchLoop (pattern : String) (p : Progress σ) (lines : List (List UInt8)) :
    (matchLoop ask json pattern p lines).exchange =
      (Reading.ofCandidates pattern (lines.map Utf8.decode?)).perform ask json p lines := by
  induction lines generalizing p with
  | nil => rfl
  | cons line rest ih =>
    rw [List.map_cons]
    cases decoded : Utf8.decode? line with
    | none =>
      simp only [matchLoop, decoded]
      rfl
    | some text =>
      rw [Reading.ofCandidates]
      by_cases blank : allBlank text
      · simp only [matchLoop, decoded, candidate?_eq, if_pos blank]
        rfl
      · simp only [matchLoop, decoded, candidate?_eq, if_neg blank, Reading.perform_behind,
          Mode.prompt, Progress.play, candidatePrompt]
        rcases (p.write "candidate> ").call ask json _ with ⟨_ | abort, q⟩
        · exact ih q
        · rfl

theorem serveCandidates_eq_perform (pattern : String) (s : σ) (input : List UInt8) :
    let lines := cutBehind 0x0A input
    let r := Reading.ofCandidates pattern (lines.map Utf8.decode?)
    serveCandidates ask json pattern s input = r.perform ask json (.start s) lines := by
  intro lines r
  rw [serveCandidates, splitLines_eq]
  exact exchange_matchLoop ask json pattern (.start s) lines

theorem fault_ofCandidates_map_some (pattern : String) (texts : List (List Char)) :
    (Reading.ofCandidates pattern (texts.map some)).fault = none := by
  induction texts with
  | nil => rfl
  | cons text texts ih =>
    rw [List.map_cons, Reading.ofCandidates]
    split
    · rfl
    · exact ih

end Play

end InspectionHost.Session
