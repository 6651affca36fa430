import InspectionHost.Client.Client
import InspectionHost.Proofs.Session.Transcript
import Mathlib.Data.List.DropRight

/-!
# Scripts of a session

A script writes requests down for a session: a verb and a pattern on a line, and for a match its
candidates on lines of their own and an empty line behind them. Each line ends in one of two ways,
and blank lines may stand between the requests.

A pattern or a candidate may be any text that is not blank and that no line end is part of, and may
begin and end with blanks. A session trims lines in three ways, none of which touches such a text.

## Main definitions

* `LineEnd` : the ways to end a line.
* `LineText`, `BlankText` : the texts of lines.
* `Entry` : a request, as it is written.
* `Entry.lines`, `Entry.calls`, `Entry.arguments` : how it is written, and what it asks for.
* `render` : a script as one text.
* `Mode.Leads` : lines that lead from a mode to a mode, with commands on the way.

## Main results

* `LineText.dropLineEnd_append` : a line without its end.
* `ofLine_verbLine` : the request of a line of a script.
* `Mode.Leads.append` : lines that lead on where others lead to.
* `Mode.leads_entry` : an entry leads from the top to the top with its calls.
* `serve_render` : a session that is given a script asks what the script was written for.
-/

namespace InspectionHost.Session

open InspectionHost.Text

/-! ### Texts of a script -/

/-- The ways to end a line. -/
inductive LineEnd where
  | lineFeed
  | returnLineFeed
  deriving DecidableEq, Repr

/-- The characters that end a line. -/
def LineEnd.chars : LineEnd → List Char
  | lineFeed => ['\n']
  | returnLineFeed => ['\r', '\n']

/-- A pattern or a candidate: a text that is not blank, and that no line end is part of. -/
structure LineText where
  chars : List Char
  notBlank : allBlank chars = false
  oneLine : '\n' ∉ chars
  noReturn : chars.getLast? ≠ some '\r'

/-- The text as a pattern or a candidate. -/
def LineText.string (t : LineText) : String :=
  String.ofList t.chars

/-- A line between requests: a text of blanks. -/
structure BlankText where
  chars : List Char
  blank : allBlank chars = true
  oneLine : '\n' ∉ chars

/-- A request as it is written, or a blank line. -/
inductive Entry where
  | blank (text : BlankText) (ending : LineEnd)
  | parse (pattern : LineText) (ending : LineEnd)
  | explain (pattern : LineText) (ending : LineEnd)
  /-- The last line end is that of the empty line behind the candidates. -/
  | matching (pattern : LineText) (ending : LineEnd) (candidates : List (LineText × LineEnd))
    (closing : LineEnd)

namespace Entry

/-- A verb and a pattern on a line. -/
def verbLine (verb : String) (pattern : LineText) (ending : LineEnd) : List Char :=
  verb.toList ++ ' ' :: pattern.chars ++ ending.chars

/-- The lines of an entry, each with its end. -/
def lines : Entry → List (List Char)
  | blank text ending => [text.chars ++ ending.chars]
  | parse pattern ending => [verbLine "parse" pattern ending]
  | explain pattern ending => [verbLine "explain" pattern ending]
  | matching pattern ending candidates closing =>
    verbLine "match" pattern ending ::
      candidates.map (fun (candidate, ending) => candidate.chars ++ ending.chars) ++
      [closing.chars]

/-- What an entry asks for. -/
def calls : Entry → List Command
  | blank _ _ => []
  | parse pattern _ => [.parse pattern.string]
  | explain pattern _ => [.explain pattern.string]
  | matching pattern _ candidates _ =>
    candidates.map fun (candidate, _) => .matching pattern.string candidate.string

/-- The arguments that the client is started with for an entry, once for each call. -/
def arguments : Entry → List (List String)
  | blank _ _ => []
  | parse pattern _ => [["parse", pattern.string]]
  | explain pattern _ => [["explain", pattern.string]]
  | matching pattern _ candidates _ =>
    candidates.map fun (candidate, _) => ["match", pattern.string, candidate.string]

end Entry

/-- A script as one text. -/
def render (script : List Entry) : List Char :=
  (script.flatMap Entry.lines).flatten

/-! ### Lines of a script -/

namespace LineText

variable (t : LineText)

theorem chars_ne_nil : t.chars ≠ [] := by
  intro hnil
  have := t.notBlank
  rw [hnil] at this
  contradiction

theorem isLineEnd_of_getLast? {c : Char} (h : t.chars.getLast? = some c) :
    isLineEnd c = false := by
  have hfeed : c ≠ '\n' := by
    rintro rfl
    exact t.oneLine (List.mem_of_getLast? h)
  have hreturn : c ≠ '\r' := by
    rintro rfl
    exact t.noReturn h
  simp [isLineEnd, hfeed, hreturn]

/-- A line that a text stands at the end of is the line without its end. -/
theorem dropLineEnd_append (front : List Char) (ending : LineEnd) :
    dropLineEnd (front ++ t.chars ++ ending.chars) = front ++ t.chars := by
  have hending : ending.chars.all isLineEnd = true := by cases ending <;> rfl
  refine dropLineEnd_append_of_all hending fun c hc => t.isLineEnd_of_getLast? ?_
  rwa [List.getLast?_append_of_ne_nil _ t.chars_ne_nil] at hc

theorem allBlank_append (front : List Char) : allBlank (front ++ t.chars) = false := by
  have hnot : t.chars.all isBlank = false := t.notBlank
  rw [allBlank, List.all_append, hnot, Bool.and_false]

theorem requirePattern?_string : Command.requirePattern? t.string = some t.string := by
  rw [Command.requirePattern?, string, String.toList_ofList, if_neg]
  simp [t.notBlank]

end LineText

/-- The request of a verb and a pattern on a line. -/
theorem ofLine_verbLine {verb : String} (visible : verb.toList.any isBlank = false)
    (nonempty : verb.toList ≠ []) (pattern : LineText) (ending : LineEnd) :
    Request.ofLine (Entry.verbLine verb pattern ending) = Request.ofVerb verb pattern.string := by
  have hvisible : ∀ c ∈ verb.toList, isBlank c = false := by
    simpa [List.any_eq_false] using visible
  have hdrop : dropLineEnd (Entry.verbLine verb pattern ending) =
      verb.toList ++ ' ' :: pattern.chars := by
    rw [Entry.verbLine, ← List.singleton_append, ← List.append_assoc]
    exact pattern.dropLineEnd_append _ ending
  have hblank : allBlank (verb.toList ++ ' ' :: pattern.chars) = false := by
    rw [← List.singleton_append, ← List.append_assoc]
    exact pattern.allBlank_append _
  have htrim : trimStart (verb.toList ++ ' ' :: pattern.chars) =
      verb.toList ++ ' ' :: pattern.chars := by
    rw [trimStart_eq_self_iff, List.head?_append_of_ne_nil _ nonempty]
    exact fun c hc => hvisible c (List.mem_of_head? hc)
  have hplain : ∀ c ∈ verb.toList, (c != ' ') = true := by
    intro c hc
    rw [bne_iff_ne]
    rintro rfl
    exact absurd (hvisible ' ' hc) (by decide)
  have hsplit : Request.splitVerb (verb.toList ++ ' ' :: pattern.chars) =
      (verb.toList, pattern.chars) := by
    simp [Request.splitVerb, List.takeWhile_append_of_pos hplain,
      List.dropWhile_append_of_pos hplain]
  rw [Request.ofLine, hdrop, hblank, htrim, hsplit, if_neg Bool.false_ne_true]
  dsimp only
  rw [String.ofList_toList, LineText.string]

/-! ### Lines that lead from mode to mode -/

namespace Mode

/-- Whatever follows them, the lines lead from a mode to the next, with these commands. -/
def Leads (m : Mode) (lines : List (List Char)) (commands : List Command) (next : Mode) : Prop :=
  ∀ rest : List (List Char),
    (m.run ((lines ++ rest).map some)).commands = commands ++ (next.run (rest.map some)).commands ∧
    (m.run ((lines ++ rest).map some)).count = lines.length + (next.run (rest.map some)).count

variable {m next last : Mode}

namespace Leads

theorem nil (m : Mode) : m.Leads [] [] m := by
  intro rest
  simp

theorem of_read {line : List Char} {turns : List Turn} (h : m.read line = (turns, some next)) :
    m.Leads [line] (turns.filterMap Turn.command?) next := by
  intro rest
  have hprompt : m.prompt.command? = none := by cases m <;> rfl
  rw [List.singleton_append, List.map_cons, run_cons h, Reading.commands_behind,
    List.filterMap_cons_none hprompt, Reading.count_behind]
  exact ⟨rfl, Nat.add_comm ..⟩

/-- Lines lead on where others lead to. -/
theorem append {lines lines' : List (List Char)} {commands commands' : List Command}
    (h : m.Leads lines commands next) (h' : next.Leads lines' commands' last) :
    m.Leads (lines ++ lines') (commands ++ commands') last := by
  intro rest
  obtain ⟨hcommands, hcount⟩ := h (lines' ++ rest)
  obtain ⟨hcommands', hcount'⟩ := h' rest
  rw [List.append_assoc, hcommands, hcommands', hcount, hcount', List.length_append]
  exact ⟨(List.append_assoc ..).symm, (Nat.add_assoc ..).symm⟩

end Leads

/-- A candidate is asked about, and the loop goes on. -/
theorem leads_candidate (pattern : String) (candidate : LineText) (ending : LineEnd) :
    (loop pattern).Leads [candidate.chars ++ ending.chars]
      [.matching pattern candidate.string] (loop pattern) := by
  have hdrop := candidate.dropLineEnd_append [] ending
  have hblank : allBlank (candidate.chars ++ ending.chars) = false := by
    rw [← allBlank_dropLineEnd, ← List.nil_append candidate.chars, hdrop]
    exact candidate.allBlank_append []
  have hread : (loop pattern).read (candidate.chars ++ ending.chars) =
      ([.call (.matching pattern candidate.string)], some (loop pattern)) := by
    rw [read, hblank, if_neg Bool.false_ne_true, ← List.nil_append candidate.chars, hdrop]
    rfl
  exact .of_read hread

theorem leads_closing (pattern : String) (ending : LineEnd) :
    (loop pattern).Leads [ending.chars] [] top := by
  have hread : (loop pattern).read ending.chars = ([], some top) := by
    cases ending <;> rfl
  exact .of_read hread

theorem leads_candidates (pattern : String) (candidates : List (LineText × LineEnd)) :
    (loop pattern).Leads
      (candidates.map fun (candidate, ending) => candidate.chars ++ ending.chars)
      (candidates.map fun (candidate, _) => .matching pattern candidate.string)
      (loop pattern) := by
  induction candidates with
  | nil => exact .nil _
  | cons first candidates ih => exact (leads_candidate pattern first.1 first.2).append ih

theorem leads_run {verb : String} (visible : verb.toList.any isBlank = false)
    (nonempty : verb.toList ≠ []) {pattern : LineText} {command : Command}
    (asks : Request.ofVerb verb pattern.string = .run command) (ending : LineEnd) :
    top.Leads [Entry.verbLine verb pattern ending] [command] top := by
  have hline := ofLine_verbLine visible nonempty pattern ending
  have hread : top.read (Entry.verbLine verb pattern ending) = ([.call command], some top) := by
    rw [read, hline, asks]
  exact .of_read hread

/-- An entry leads from the top to the top with its calls. -/
theorem leads_entry (e : Entry) : top.Leads e.lines e.calls top := by
  cases e with
  | blank text ending =>
    have hending : ending.chars.all isBlank = true := by cases ending <;> rfl
    have hblank : allBlank (text.chars ++ ending.chars) = true := by
      rw [allBlank, List.all_append, hending, Bool.and_true]
      exact text.blank
    have hline : Request.ofLine (text.chars ++ ending.chars) = .blank := by
      rw [Request.ofLine, allBlank_dropLineEnd, if_pos hblank]
    have hread : top.read (text.chars ++ ending.chars) = ([], some top) := by rw [read, hline]
    exact .of_read hread
  | parse pattern ending =>
    have hasks : Request.ofVerb "parse" pattern.string = .run (.parse pattern.string) := by
      rw [Request.ofVerb, Request.needingPattern, pattern.requirePattern?_string]
    exact leads_run rfl (by decide) hasks ending
  | explain pattern ending =>
    have hasks : Request.ofVerb "explain" pattern.string = .run (.explain pattern.string) := by
      rw [Request.ofVerb, Request.needingPattern, pattern.requirePattern?_string]
    exact leads_run rfl (by decide) hasks ending
  | matching pattern ending candidates closing =>
    have hasks : Request.ofVerb "match" pattern.string = .candidates pattern.string := by
      rw [Request.ofVerb, Request.needingPattern, pattern.requirePattern?_string]
    have hline : Request.ofLine (Entry.verbLine "match" pattern ending) = _ :=
      ofLine_verbLine rfl (by decide) pattern ending
    have hread : top.read (Entry.verbLine "match" pattern ending) =
        ([], some (loop pattern.string)) := by
      rw [read, hline, hasks]
    have hloop := (leads_candidates pattern.string candidates).append
      (leads_closing pattern.string closing)
    rw [List.append_nil] at hloop
    exact (Leads.of_read hread).append hloop

theorem leads_script (script : List Entry) :
    top.Leads (script.flatMap Entry.lines) (script.flatMap Entry.calls) top := by
  induction script with
  | nil => exact .nil _
  | cons e script ih => exact (leads_entry e).append ih

end Mode

/-! ### Sessions over a script -/

theorem exists_body_append_lineEnd {front : List Char} (h : '\n' ∉ front) (ending : LineEnd) :
    ∃ body, '\n' ∉ body ∧ front ++ ending.chars = body ++ ['\n'] := by
  cases ending with
  | lineFeed => exact ⟨front, h, rfl⟩
  | returnLineFeed => exact ⟨front ++ ['\r'], by simp [h], by simp [LineEnd.chars]⟩

/-- Every line of an entry ends in its only line feed. -/
theorem Entry.exists_body_of_mem_lines {e : Entry} {line : List Char} (h : line ∈ e.lines) :
    ∃ body, '\n' ∉ body ∧ line = body ++ ['\n'] := by
  have hverb (verb : String) (plain : '\n' ∉ verb.toList) (pattern : LineText) (ending : LineEnd) :
      ∃ body, '\n' ∉ body ∧ verbLine verb pattern ending = body ++ ['\n'] := by
    refine exists_body_append_lineEnd ?_ ending
    simp [plain, pattern.oneLine]
  cases e with
  | blank text ending =>
    obtain rfl := List.mem_singleton.1 h
    exact exists_body_append_lineEnd text.oneLine ending
  | parse pattern ending =>
    obtain rfl := List.mem_singleton.1 h
    exact hverb "parse" (by decide) pattern ending
  | explain pattern ending =>
    obtain rfl := List.mem_singleton.1 h
    exact hverb "explain" (by decide) pattern ending
  | matching pattern ending candidates closing =>
    simp only [lines, List.mem_append, List.mem_cons, List.mem_map, List.not_mem_nil,
      or_false] at h
    rcases h with (rfl | ⟨⟨candidate, ending⟩, -, rfl⟩) | rfl
    · exact hverb "match" (by decide) pattern ending
    · exact exists_body_append_lineEnd candidate.oneLine ending
    · exact exists_body_append_lineEnd List.not_mem_nil closing

theorem cutBehind_render (script : List Entry) :
    cutBehind '\n' (render script) = script.flatMap Entry.lines := by
  have hlines : ∀ line ∈ script.flatMap Entry.lines,
      ∃ body, '\n' ∉ body ∧ line = body ++ ['\n'] := by
    intro line hline
    obtain ⟨e, -, he⟩ := List.mem_flatMap.1 hline
    exact Entry.exists_body_of_mem_lines he
  simpa [render, cutBehind] using cutBehind_flatten_append hlines []

theorem Entry.arguments_calls (e : Entry) (client : Client) (path : String) :
    e.calls.map (fun command => (client.launch path command).arguments) = e.arguments := by
  cases e with
  | blank _ _ | parse _ _ | explain _ _ => rfl
  | matching pattern _ candidates _ =>
    rw [calls, List.map_map]
    rfl

/-- **A session decodes a script.** Let whoever answers the commands of a session answer in any way,
and let the input be a script: requests to parse, to explain and to match, with blank lines between
them, where each pattern and each candidate is a text that is not blank, holds no line feed and does
not end in a carriage return. Then:

* The commands that are asked are those of the requests, in order.
* Their number is told, and all of the input is read.
* The client is started for them with the verb, the pattern and the candidate, each character for
  character. -/
theorem serve_render (answer : List Command → Command → Outcome) (json : Bool)
    (script : List Entry) (client : Client) (path : String) :
    let calls := script.flatMap Entry.calls
    (∃ written, serve (recording answer) json [] (Utf8.encode (render script)) =
      (.ok ⟨written, calls.length, none, []⟩, calls)) ∧
    calls.map (fun command => (client.launch path command).arguments) =
      script.flatMap Entry.arguments := by
  intro calls
  constructor
  · let lines := script.flatMap Entry.lines
    let r := Mode.top.run (lines.map some)
    obtain ⟨hcommands, hcount⟩ := Mode.leads_script script []
    have hcalls : r.commands = calls := by
      rw [List.append_nil] at hcommands
      exact hcommands.trans (List.append_nil _)
    have hread : r.count = lines.length := by
      rw [List.append_nil] at hcount
      exact hcount
    have hfault : r.fault = none := Mode.fault_run_map_some .top lines
    have hunread : ((lines.map Utf8.encode).drop r.count).flatten = [] := by
      rw [hread, List.drop_of_length_le (by simp), List.flatten_nil]
    refine ⟨String.join (transcript answer json [] r.turns), ?_⟩
    calc serve (recording answer) json [] (Utf8.encode (render script))
        = r.perform (recording answer) json (.start []) (lines.map Utf8.encode) := by
          rw [serve_encode, cutBehind_render]
      _ = _ := by rw [perform_recording, hfault, hunread, hcalls, Option.map_none]
  · rw [List.map_flatMap]
    exact List.flatMap_congr fun e _ => e.arguments_calls client path

/-- Blanks at the beginning of a pattern are part of it. -/
example : String.ofList (render [.matching ⟨" a".toList, by decide, by decide, by decide⟩
      .returnLineFeed [(⟨"quit".toList, by decide, by decide, by decide⟩, .lineFeed)]
      .lineFeed]) =
    "match  a\r\nquit\n\n" := by
  decide

end InspectionHost.Session
