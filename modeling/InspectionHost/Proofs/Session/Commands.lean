import InspectionHost.Proofs.Session.Script

/-!
# The commands of a session

A line of a session becomes a command in one of two ways: a request for one call carries its
pattern, and in a loop a candidate is asked about with the pattern of the loop. Both refuse blank
patterns, and a blank candidate ends its loop, so whatever the lines are, no command has a blank
pattern, and every candidate is a text that a script can hold.

A line that is no request is answered without a command. What a session does to whoever answers is
decided by its commands alone, so such a line might as well not be there.

## Main definitions

* `Command.candidate?` : the candidate of a command.
* `Command.IsOfLines` : what a command of a session is.
* `Mode.behind` : the mode that lines lead to.
* `Session.Keeps` : an invariant of whoever answers, for some commands.

## Main results

* `Mode.isOfLines_of_mem_commands` : the commands of a session.
* `Session.Keeps.serve`, `Session.Keeps.serveCandidates` : what every command keeps the loops keep.
* `Session.serve_of_invalid` : a session with a line that is no request, and without it.
-/

namespace InspectionHost

open InspectionHost.Text

namespace Command

/-- The candidate of a command, if it has one. -/
def candidate? : Command → Option String
  | matching _ candidate => some candidate
  | parse _ | explain _ => none

theorem arguments_eq (command : Command) :
    command.arguments = [command.subcommand, command.pattern] ++ command.candidate?.toList := by
  cases command <;> rfl

/-- What a command of a session is: its pattern is not blank, and a candidate is the text of a
line. -/
structure IsOfLines (command : Command) : Prop where
  usable : allBlank command.pattern.toList = false
  candidate : ∀ candidate, command.candidate? = some candidate →
    ∃ t : Session.LineText, candidate = t.string

end Command

namespace Session

/-! ### What lines ask for -/

/-- The text of a line that is not blank, without its end. -/
theorem exists_lineText {line : List Char} (single : '\n' ∉ line.dropLast)
    (visible : allBlank line = false) : ∃ t : LineText, t.chars = dropLineEnd line := by
  have notBlank : allBlank (dropLineEnd line) = false := by rwa [allBlank_dropLineEnd]
  have nonempty : dropLineEnd line ≠ [] := by
    intro hnil
    rw [hnil] at notBlank
    contradiction
  have last : isLineEnd ((dropLineEnd line).getLast nonempty) = false := by
    rw [← Bool.not_eq_true]
    exact List.rdropWhile_last_not isLineEnd line nonempty
  obtain ⟨ending, parts⟩ : dropLineEnd line <+: line := List.rdropWhile_prefix isLineEnd line
  refine ⟨⟨dropLineEnd line, notBlank, fun there => single ?_, fun there => ?_⟩, rfl⟩
  · -- A line feed of the text stands in front of its last character, which ends no line.
    rw [← parts, List.dropLast_append]
    split
    · refine List.mem_dropLast_of_mem_of_ne_getLast there fun same => ?_
      rw [← same] at last
      contradiction
    · exact List.mem_append_left _ there
  · rw [List.getLast?_eq_some_getLast nonempty] at there
    rw [Option.some.inj there] at last
    contradiction

theorem needingPattern_cases (verb pattern : String) (request : String → Request) :
    (allBlank pattern.toList = false ∧
        Request.needingPattern verb pattern request = request pattern) ∨
      Request.needingPattern verb pattern request = .invalid (.emptyPattern verb) := by
  cases blank : allBlank pattern.toList with
  | false => exact .inl ⟨rfl, by simp [Request.needingPattern, Command.requirePattern?, blank]⟩
  | true => exact .inr (by simp [Request.needingPattern, Command.requirePattern?, blank])

/-- The patterns of a request, for one call or for candidates. -/
def Request.pattern? : Request → Option String
  | run command => some command.pattern
  | candidates pattern => some pattern
  | help | quit | blank | invalid _ => none

/-- No request has a blank pattern, and none for one call has a candidate. -/
theorem usable_of_ofVerb (verb rest : String) :
    (∀ pattern, (Request.ofVerb verb rest).pattern? = some pattern →
      allBlank pattern.toList = false) ∧
    ∀ command, Request.ofVerb verb rest = .run command → command.candidate? = none := by
  unfold Request.ofVerb
  split
  · rcases needingPattern_cases "parse" rest fun pattern => .run (.parse pattern) with
      ⟨usable, h⟩ | h <;> simp_all [Request.pattern?, Command.pattern, Command.candidate?]
  · rcases needingPattern_cases "explain" rest fun pattern => .run (.explain pattern) with
      ⟨usable, h⟩ | h <;> simp_all [Request.pattern?, Command.pattern, Command.candidate?]
  · rcases needingPattern_cases "match" rest .candidates with
      ⟨usable, h⟩ | h <;> simp_all [Request.pattern?]
  all_goals simp [Request.pattern?]

theorem usable_of_ofLine (line : List Char) :
    (∀ pattern, (Request.ofLine line).pattern? = some pattern → allBlank pattern.toList = false) ∧
    ∀ command, Request.ofLine line = .run command → command.candidate? = none := by
  unfold Request.ofLine
  dsimp only
  split
  · simp [Request.pattern?]
  · exact usable_of_ofVerb _ _

namespace Mode

/-- The pattern of a loop is not blank. -/
def Usable : Mode → Prop
  | top => True
  | loop pattern => allBlank pattern.toList = false

variable {m next : Mode}

/-- A line has its command, and leads to a mode with a pattern that is not blank. -/
theorem Usable.read (usable : m.Usable) {line : List Char} (single : '\n' ∉ line.dropLast) :
    (∀ command ∈ (m.read line).1.filterMap Turn.command?, command.IsOfLines) ∧
      ∀ next, (m.read line).2 = some next → next.Usable := by
  cases m with
  | loop pattern =>
    cases blank : allBlank line with
    | true => simp [Mode.read, blank, Usable]
    | false =>
      obtain ⟨t, ht⟩ := exists_lineText single blank
      have asked : (Command.matching pattern (String.ofList (dropLineEnd line))).IsOfLines := by
        refine ⟨usable, fun candidate given => ⟨t, ?_⟩⟩
        rw [LineText.string, ht]
        exact (Option.some.inj given).symm
      simpa [Mode.read, blank, Turn.command?] using ⟨asked, usable⟩
  | top =>
    obtain ⟨patterns, single⟩ := usable_of_ofLine line
    cases asked : Request.ofLine line with
    | run command =>
      rw [asked] at patterns
      have ofLines : command.IsOfLines :=
        ⟨patterns _ rfl, fun candidate given => by simp [single command asked] at given⟩
      simpa [Mode.read, asked, Turn.command?, Usable] using ofLines
    | candidates pattern =>
      rw [asked] at patterns
      simpa [Mode.read, asked, Usable] using patterns pattern rfl
    | help | quit | blank | invalid fault => simp [Mode.read, asked, Turn.command?, Usable]

@[simp] theorem command?_prompt (m : Mode) : m.prompt.command? = none := by
  cases m <;> rfl

/-- The commands of a session are those of its lines. -/
theorem isOfLines_of_mem_commands (usable : m.Usable) {lines : List (List Char)}
    (single : ∀ line ∈ lines, '\n' ∉ line.dropLast) {command : Command}
    (asked : command ∈ (m.run (lines.map some)).commands) : command.IsOfLines := by
  induction lines generalizing m with
  | nil => cases m <;> simp [run, Reading.commands, Turn.command?, prompt] at asked
  | cons line rest ih =>
    obtain ⟨first, later⟩ := List.forall_mem_cons.1 single
    obtain ⟨commands, modes⟩ := usable.read first
    rw [List.map_cons] at asked
    rcases hread : m.read line with ⟨turns, _ | next⟩ <;> rw [hread] at commands modes
    · obtain ⟨rfl, -, rfl⟩ := read_eq_none hread
      simp [run_cons_of_quit hread, Reading.commands] at asked
    · rw [run_cons hread, Reading.commands_behind,
        List.filterMap_cons_none m.command?_prompt] at asked
      exact (List.mem_append.1 asked).elim (commands command) (ih (modes next rfl) later)

/-- The mode that lines lead to, unless one of them quits. -/
def behind (m : Mode) (lines : List (List Char)) : Option Mode :=
  lines.foldlM (fun m line => (m.read line).2) m

/-- Lines lead to the mode behind them. -/
theorem exists_leads_of_behind {lines : List (List Char)} (h : m.behind lines = some next) :
    ∃ commands, m.Leads lines commands next := by
  induction lines generalizing m with
  | nil =>
    obtain rfl : m = next := Option.some.inj h
    exact ⟨[], .nil m⟩
  | cons line rest ih =>
    rw [behind, List.foldlM_cons] at h
    obtain ⟨mid, hmid, hrest⟩ := Option.bind_eq_some_iff.1 h
    obtain ⟨commands, later⟩ := ih hrest
    exact ⟨_, (Leads.of_read (Prod.ext rfl hmid)).append later⟩

theorem leads_invalid {line : List Char} {fault : RequestFault}
    (rejected : Request.ofLine line = .invalid fault) : top.Leads [line] [] top := by
  have hread : top.read line = ([.say fault.message], some top) := by rw [read, rejected]
  exact .of_read hread

end Mode

/-! ### What commands do to whoever answers -/

section Keeps

variable {σ : Type} {ask : σ → Command → Except Abort Outcome × σ} {json : Bool}
  {C : Command → Prop} {I : σ → Prop}

/-- Whoever answers keeps an invariant when some commands are asked. -/
def Keeps (ask : σ → Command → Except Abort Outcome × σ) (C : Command → Prop) (I : σ → Prop) :
    Prop :=
  ∀ s command, C command → I s → I (ask s command).2

theorem Keeps.call (keeps : Keeps ask C I) (json : Bool) {p : Progress σ} (start : I p.state)
    {command : Command} (asked : C command) : I (p.call ask json command).2.state := by
  have kept := keeps p.state command asked start
  rcases told : ask p.state command with ⟨_ | _, s⟩ <;> rw [told] at kept <;>
    simpa only [Progress.call, told] using kept

theorem Keeps.play (keeps : Keeps ask C I) (json : Bool) {turns : List Turn}
    (asked : ∀ command ∈ turns.filterMap Turn.command?, C command) {p : Progress σ}
    (start : I p.state) : I (p.play ask json turns).2.state := by
  induction turns generalizing p with
  | nil => exact start
  | cons turn rest ih =>
    cases turn with
    | prompt words => exact ih asked start
    | say line => exact ih asked start
    | call command =>
      obtain ⟨first, later⟩ := List.forall_mem_cons.1 asked
      have kept := keeps.call json start first
      rw [Progress.play]
      rcases told : p.call ask json command with ⟨_ | abort, q⟩ <;> rw [told] at kept
      · exact ih later kept
      · exact kept

/-- A loop over requests keeps what its commands keep. -/
theorem Keeps.serve (keeps : Keeps ask C I) {text : List Char}
    (asked : ∀ command ∈ (Mode.top.run ((cutBehind '\n' text).map some)).commands, C command)
    {s : σ} (start : I s) : I (serve ask json s (Utf8.encode text)).2 := by
  have kept := keeps.play json asked (p := .start s) start
  rw [serve_encode, Reading.perform]
  rcases told : (Progress.start s).play ask json
    (Mode.top.run ((cutBehind '\n' text).map some)).turns with ⟨_ | abort, q⟩ <;>
    rw [told] at kept <;> exact kept

/-- A loop over candidates keeps what its commands keep. -/
theorem Keeps.matchLoop (keeps : Keeps ask C I) {pattern : String} {lines : List (List Char)}
    (asked : ∀ line ∈ lines, ∀ candidate, candidate? line = some candidate →
      C (.matching pattern candidate)) {p : Progress σ} (start : I p.state) :
    I (matchLoop ask json pattern p (lines.map Utf8.encode)).progress.state := by
  induction lines generalizing p with
  | nil => exact start
  | cons line rest ih =>
    obtain ⟨first, later⟩ := List.forall_mem_cons.1 asked
    rw [List.map_cons]
    cases given : candidate? line with
    | none =>
      simp only [Session.matchLoop, Utf8.decode?_encode, given]
      exact start
    | some candidate =>
      have prompted : I (p.write candidatePrompt).state := start
      have kept := keeps.call json prompted (first candidate given)
      simp only [Session.matchLoop, Utf8.decode?_encode, given]
      rcases told : (p.write candidatePrompt).call ask json (.matching pattern candidate) with
        ⟨_ | abort, q⟩ <;> rw [told] at kept
      · exact ih later kept
      · exact kept

theorem state_exchange (e : LoopEnd σ) : e.exchange.2 = e.progress.state := by
  unfold LoopEnd.exchange
  split <;> rfl

theorem Keeps.serveCandidates (keeps : Keeps ask C I) {pattern : String} {text : List Char}
    (asked : ∀ line ∈ cutBehind '\n' text, ∀ candidate, candidate? line = some candidate →
      C (.matching pattern candidate)) {s : σ} (start : I s) :
    I (serveCandidates ask json pattern s (Utf8.encode text)).2 := by
  rw [Session.serveCandidates, state_exchange, splitLines_encode]
  exact keeps.matchLoop asked (p := .start s) start

end Keeps

/-! ### Lines that are no requests -/

section Invalid

variable {σ : Type} (ask : σ → Command → Except Abort Outcome × σ) (json : Bool)

/-- Only the commands of turns matter for whoever answers. -/
theorem play_commands (turns : List Turn) {p q : Progress σ} (state : p.state = q.state)
    (calls : p.calls = q.calls) :
    let r := p.play ask json turns
    let r' := q.play ask json ((turns.filterMap Turn.command?).map .call)
    r.1 = r'.1 ∧ r.2.state = r'.2.state ∧ r.2.calls = r'.2.calls := by
  induction turns generalizing p q with
  | nil => exact ⟨rfl, state, calls⟩
  | cons turn rest ih =>
    cases turn with
    | prompt words => exact ih (p := p.write words) state calls
    | say line => exact ih (p := p.writeLine line) state calls
    | call command =>
      simp only [List.filterMap_cons, Turn.command?, List.map_cons, Progress.play]
      rcases told : ask q.state command with ⟨abort | outcome, s⟩
      · simp only [Progress.call, state, told, calls, and_self]
      · simp only [Progress.call, state, told]
        exact ih rfl (congrArg (· + 1) calls)

/-- Readings with the same commands, neither of which fails, end alike. -/
theorem perform_of_commands_eq {r r' : Reading} (commands : r.commands = r'.commands)
    (p : Progress σ) (lines lines' : List (List UInt8)) :
    let e := r.perform ask json p lines
    let e' := r'.perform ask json p lines'
    e.2 = e'.2 ∧ e.1.map Exchange.calls = e'.1.map Exchange.calls := by
  obtain ⟨ends, state, calls⟩ := play_commands ask json r.turns (p := p) rfl rfl
  obtain ⟨ends', state', calls'⟩ := play_commands ask json r'.turns (p := p) rfl rfl
  rw [Reading.commands, Reading.commands] at commands
  rw [commands] at ends state calls
  have ends := ends.trans ends'.symm
  have state := state.trans state'.symm
  have calls := calls.trans calls'.symm
  unfold Reading.perform
  rcases first : p.play ask json r.turns with ⟨_ | abort, q⟩ <;>
    rcases second : p.play ask json r'.turns with ⟨_ | abort', q'⟩ <;>
    rw [first, second] at ends state calls
  · exact ⟨state, congrArg Except.ok calls⟩
  · contradiction
  · contradiction
  · exact ⟨state, congrArg Except.error (Option.some.inj ends)⟩

/-- A session with a line that is no request does to whoever answers what it does without the
line. -/
theorem serve_of_invalid {text line : List Char} {before after : List (List Char)}
    {fault : RequestFault} (cut : cutBehind '\n' text = before ++ line :: after)
    (reached : Mode.top.behind before = some .top) (rejected : Request.ofLine line = .invalid fault)
    (s : σ) :
    let e := serve ask json s (Utf8.encode text)
    let e' := serve ask json s (Utf8.encode (before ++ after).flatten)
    e.2 = e'.2 ∧ e.1.map Exchange.calls = e'.1.map Exchange.calls := by
  obtain ⟨commands, leads⟩ := Mode.exists_leads_of_behind reached
  obtain ⟨asked, -⟩ := leads.append (Mode.leads_invalid rejected) after
  obtain ⟨asked', -⟩ := leads after
  have same : (Mode.top.run ((before ++ line :: after).map some)).commands =
      (Mode.top.run ((before ++ after).map some)).commands := by
    rw [asked', ← List.singleton_append, ← List.append_assoc, asked, List.append_nil]
  rw [serve_encode, serve_encode, cut, cutBehind_flatten_erase cut]
  exact perform_of_commands_eq ask json same (.start s) _ _

end Invalid

end Session

end InspectionHost
