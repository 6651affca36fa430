import InspectionHost.Proofs.Client.Lines
import InspectionHost.Proofs.Host.Replies
import InspectionHost.Proofs.Session.Grammar
import InspectionHost.Proofs.Session.Transcript

/-!
# A session writes one line for each answer

Whoever reads what a session writes can count line feeds: there is one for each call of the client,
one for each request for help and one for each line that is no request, and no other. A prompt has
none. The lines of a client are cut at line feeds, and spaces stand between them; as JSON, an
outcome has no character below U+0020. A line of the input has a line feed at its end at most, and
a verb does not end in one, so that a verb which is told back has none.

## Main definitions

* `Turn.Flat` : a turn whose words have no line feed.
* `Mode.requests` : the requests among lines.

## Main results

* `Outcome.lineFeed_notMem_json`, `ClientReply.lineFeed_notMem_displayText` : an outcome has no line
  feed.
* `lineFeed_notMem_message` : nor has what is told of a line that is no request.
* `Mode.flat_of_mem_run` : a session says nothing with a line feed.
* `Mode.exists_prompt_of_run` : before each command stands a prompt.
* `count_lineFeed_join_transcript` : the line feeds of a transcript.
* `exists_replies_of_serveRequests` : a session of a host has its commands answered by replies.
* `framed_serve` : a session writes one line for each answer.
-/

namespace InspectionHost

open InspectionHost.Text

/-! ### Outcomes -/

/-- The written form of an outcome has no line feed. -/
theorem Outcome.lineFeed_notMem_json (o : Outcome) : '\n' ∉ o.json.toList := by
  intro there
  exact absurd (ge_space_of_mem_json there) (by decide)

namespace ClientReply

/-- The text of a reply has no line feed. -/
theorem lineFeed_notMem_displayText (reply : ClientReply) :
    '\n' ∉ reply.outcome.displayText.toList := by
  cases reply with
  | wrote pieces => exact lineFeed_notMem_joinLines_readLines pieces
  | failed failure => exact List.not_mem_nil

theorem lineFeed_notMem_content (reply : ClientReply) (json : Bool) :
    '\n' ∉ (if json then reply.outcome.json else reply.outcome.displayText).toList := by
  cases json with
  | true => exact reply.outcome.lineFeed_notMem_json
  | false => exact reply.lineFeed_notMem_displayText

end ClientReply

namespace Session

/-! ### Requests -/

/-- The verb of a line has no line feed, if the line has none but at its end. -/
theorem LineParts.lineFeed_notMem_verb (p : LineParts) (single : '\n' ∉ p.text.dropLast) :
    '\n' ∉ p.verb := by
  intro inVerb
  have inCore : '\n' ∈ p.core := List.mem_append_left _ inVerb
  cases hends : p.ends with
  | cons e rest =>
    have whole : p.text.dropLast = p.blanks ++ p.core ++ (e :: rest).dropLast := by
      rw [text, hends, List.dropLast_append_of_ne_nil (by simp)]
    exact single (whole ▸ List.mem_append_left _ (List.mem_append_right _ inCore))
  | nil =>
    have whole : p.text.dropLast = p.blanks ++ p.core.dropLast := by
      rw [text, hends, List.append_nil, List.dropLast_append_of_ne_nil p.core_ne_nil]
    rw [← List.dropLast_append_getLast p.core_ne_nil, List.mem_append, List.mem_singleton] at inCore
    obtain before | last := inCore
    · exact single (whole ▸ List.mem_append_right _ before)
    · have closed := p.closed _ (List.getLast?_eq_some_getLast p.core_ne_nil)
      rw [← last] at closed
      exact absurd closed (by decide)

variable {line : List Char}

/-- What is told of a line that is no request has no line feed. -/
theorem lineFeed_notMem_message {fault : RequestFault} (single : '\n' ∉ line.dropLast)
    (h : Request.ofLine line = .invalid fault) : '\n' ∉ fault.message.toList := by
  obtain ⟨p, rfl, asked⟩ := fault_of_ofLine h
  have solid := p.lineFeed_notMem_verb single
  obtain ⟨-, rfl⟩ | ⟨-, rfl⟩ := asked
  · have told : (RequestFault.emptyPattern (String.ofList p.verb)).message =
      String.ofList p.verb ++ ": " ++ "Pattern must not be empty" := rfl
    simpa [told] using solid
  · have told : (RequestFault.unknownVerb (String.ofList p.verb)).message =
      "unknown command '" ++ String.ofList p.verb ++ "'" := rfl
    simpa [told] using solid

/-- Whether a request is a line that is none. -/
def Request.isInvalid : Request → Bool
  | .invalid _ => true
  | _ => false

/-- The request of a line, if the line is read as one. -/
def Mode.request? : Mode → List Char → Option Request
  | .top, line => some (Request.ofLine line)
  | .loop _, _ => none

/-- The requests among lines, up to one to quit. A line of a loop is none. -/
def Mode.requests (m : Mode) : List (List Char) → List Request
  | [] => []
  | line :: rest =>
    (m.request? line).toList ++ match (m.read line).2 with
      | some next => next.requests rest
      | none => []

/-! ### Turns -/

namespace Turn

/-- The words of a turn have no line feed. -/
def Flat : Turn → Prop
  | prompt words => '\n' ∉ words.toList
  | say line => '\n' ∉ line.toList
  | call _ => True

/-- Whether a turn writes a line that is no outcome. -/
def isSay : Turn → Bool
  | say _ => true
  | prompt _ | call _ => false

end Turn

namespace Mode

variable {m : Mode}

theorem flat_prompt (m : Mode) : m.prompt.Flat := by
  cases m <;> simp [prompt, Turn.Flat]

/-- What is said at a line has no line feed. -/
theorem flat_of_mem_read (single : '\n' ∉ line.dropLast) {turn : Turn}
    (there : turn ∈ (m.read line).1) : turn.Flat := by
  cases m with
  | loop pattern =>
    simp only [read] at there
    split at there
    · cases there
    · obtain rfl := List.mem_singleton.1 there
      exact trivial
  | top =>
    cases asked : Request.ofLine line with
    | run command =>
      obtain rfl : turn = .call command := by simpa [read, asked] using there
      exact trivial
    | help =>
      obtain rfl : turn = .say helpLine := by simpa [read, asked] using there
      have : '\n' ∉ helpLine.toList := by decide
      exact this
    | invalid fault =>
      obtain rfl : turn = .say fault.message := by simpa [read, asked] using there
      exact lineFeed_notMem_message single asked
    | candidates _ | quit | blank => simp [read, asked] at there

theorem length_read_le (m : Mode) (line : List Char) : (m.read line).1.length ≤ 1 := by
  cases m with
  | loop pattern =>
    simp only [read]
    split <;> simp
  | top => cases asked : Request.ofLine line <;> simp [read, asked]

/-- At a line something is said exactly if it asks for help or is no request. -/
theorem countP_isSay_read (m : Mode) (line : List Char) :
    (m.read line).1.countP Turn.isSay = (m.request? line).toList.count .help +
      (m.request? line).toList.countP Request.isInvalid := by
  cases m with
  | loop pattern =>
    simp only [read]
    split <;> rfl
  | top =>
    cases asked : Request.ofLine line <;>
      simp [read, request?, asked, Turn.isSay, Request.isInvalid]

/-- A session says nothing with a line feed, if its lines have none but at their ends. -/
theorem flat_of_mem_run {lines : List (List Char)} (single : ∀ line ∈ lines, '\n' ∉ line.dropLast)
    {turn : Turn} (there : turn ∈ (m.run (lines.map some)).turns) : turn.Flat := by
  induction lines generalizing m with
  | nil =>
    cases m with
    | top =>
      obtain rfl := List.mem_singleton.1 there
      exact flat_prompt .top
    | loop pattern =>
      obtain rfl | rfl : turn = (Mode.loop pattern).prompt ∨ turn = Mode.top.prompt := by
        simpa [run] using there
      · exact flat_prompt _
      · exact flat_prompt .top
  | cons line lines ih =>
    obtain ⟨here, later⟩ := List.forall_mem_cons.1 single
    rw [List.map_cons] at there
    rcases hread : m.read line with ⟨turns, _ | next⟩
    · obtain ⟨rfl, -, rfl⟩ := read_eq_none hread
      rw [run_cons_of_quit hread] at there
      obtain rfl := List.mem_singleton.1 there
      exact flat_prompt .top
    · rw [run_cons hread, Reading.turns_behind, List.mem_append, List.mem_cons] at there
      obtain (rfl | said) | behind := there
      · exact flat_prompt m
      · exact flat_of_mem_read (m := m) here (by rwa [hread])
      · exact ih later behind

/-- A session says something for each request for help and each line that is no request. -/
theorem countP_isSay_run (m : Mode) (lines : List (List Char)) :
    (m.run (lines.map some)).turns.countP Turn.isSay =
      (m.requests lines).count .help + (m.requests lines).countP Request.isInvalid := by
  induction lines generalizing m with
  | nil => cases m <;> rfl
  | cons line lines ih =>
    have said := m.countP_isSay_read line
    have prompted : m.prompt.isSay = false := by cases m <;> rfl
    rw [List.map_cons]
    rcases hread : m.read line with ⟨turns, _ | next⟩ <;> rw [hread] at said
    · rw [run_cons_of_quit hread, requests, hread]
      simp only [List.countP_cons, prompted, said, List.append_nil]
      simp
    · rw [run_cons hread, Reading.turns_behind, List.countP_append, ih, requests, hread]
      simp only [List.countP_cons, prompted, said, List.count_append, List.countP_append]
      simp only [Bool.false_eq_true, if_false]
      omega

theorem prompt_ne_call (m : Mode) (command : Command) : m.prompt ≠ .call command := by
  cases m <;> exact nofun

/-- Before each command stands a prompt. -/
theorem exists_prompt_of_run {lines : List (List Char)} {before after : List Turn}
    {command : Command} (h : (m.run (lines.map some)).turns = before ++ .call command :: after) :
    ∃ m : Mode, before.getLast? = some m.prompt := by
  induction lines generalizing m before with
  | nil =>
    have there : Turn.call command ∈ (m.run []).turns := by
      rw [List.map_nil] at h
      simp [h]
    cases m <;> simp [run, prompt] at there
  | cons line lines ih =>
    rw [List.map_cons] at h
    rcases hread : m.read line with ⟨turns, _ | next⟩
    · obtain ⟨-, -, rfl⟩ := read_eq_none hread
      have single : [m.prompt] = before ++ .call command :: after := by
        rwa [run_cons_of_quit hread] at h
      have there : Turn.call command ∈ [m.prompt] :=
        single ▸ List.mem_append_right before List.mem_cons_self
      exact absurd (List.mem_singleton.1 there).symm (m.prompt_ne_call command)
    · rw [run_cons hread, Reading.turns_behind] at h
      obtain ⟨more, rfl, later⟩ | ⟨more, here, later⟩ := List.append_eq_append_iff.1 h
      · obtain ⟨m', last⟩ := ih later
        exact ⟨m', by rw [List.getLast?_append, last, Option.some_or]⟩
      · cases more with
        | nil =>
          have split : (next.run (lines.map some)).turns = [] ++ .call command :: after := by
            simpa using later.symm
          obtain ⟨m', last⟩ := ih split
          cases last
        | cons turn more =>
          obtain ⟨rfl, -⟩ := List.cons.inj later
          cases before with
          | nil => exact absurd (List.cons.inj here).1 (m.prompt_ne_call command)
          | cons first between =>
            obtain rfl : m.prompt = first := (List.cons.inj here).1
            have hturns : turns = between ++ .call command :: more := (List.cons.inj here).2
            -- At a line at most one thing is done, so the command stands right behind its prompt.
            have few := m.length_read_le line
            simp only [hread, hturns, List.length_append, List.length_cons] at few
            obtain rfl : between = [] := List.eq_nil_of_length_eq_zero (by omega)
            exact ⟨m, rfl⟩

end Mode

/-! ### Transcripts -/

variable (answer : List Command → Command → Outcome) (json : Bool)

theorem transcript_append (done : List Command) (turns rest : List Turn) :
    transcript answer json done (turns ++ rest) = transcript answer json done turns ++
      transcript answer json (done ++ turns.filterMap Turn.command?) rest := by
  induction turns generalizing done with
  | nil => simp [transcript]
  | cons turn turns ih =>
    cases turn <;> simp [transcript, Turn.command?, List.filterMap_cons, ih]

/-- The line feeds of a transcript: one for each command and one for each thing said. -/
theorem count_lineFeed_join_transcript
    (flat : ∀ done command, '\n' ∉
      (if json then (answer done command).json else (answer done command).displayText).toList)
    {turns : List Turn} (flatTurns : ∀ turn ∈ turns, turn.Flat) (done : List Command) :
    (String.join (transcript answer json done turns)).toList.count '\n' =
      (turns.filterMap Turn.command?).length + turns.countP Turn.isSay := by
  have hline {text : String} (h : '\n' ∉ text.toList) :
      (text ++ "\n").toList.count '\n' = 1 := by
    rw [String.toList_append, List.count_append, List.count_eq_zero.2 h]
    rfl
  induction turns generalizing done with
  | nil => rfl
  | cons turn turns ih =>
    obtain ⟨here, later⟩ := List.forall_mem_cons.1 flatTurns
    cases turn with
    | prompt words =>
      rw [transcript, String.join_cons, String.toList_append, List.count_append, ih later,
        List.count_eq_zero.2 here]
      simp [Turn.command?, Turn.isSay, List.filterMap_cons]
    | say line =>
      rw [transcript, String.join_cons, String.toList_append, List.count_append, ih later,
        hline here]
      simp only [List.filterMap_cons, Turn.command?, List.countP_cons, Turn.isSay, if_true]
      omega
    | call command =>
      rw [transcript, String.join_cons, String.toList_append, List.count_append, ih later,
        Outcome.line, hline (flat done command)]
      simp only [List.filterMap_cons, Turn.command?, List.countP_cons, Turn.isSay,
        List.length_cons, Bool.false_eq_true, if_false]
      omega

/-! ### Sessions of a host -/

/-- A session of a host that is not aborted is one whose commands are answered by replies. -/
theorem exists_replies_of_serveRequests {h : Host} (reads : h.Reads) (f : Front)
    (input : List UInt8) :
    (∃ abort, (h.serveRequests f input).1 = .error abort) ∨
      ∃ answer : List Command → Command → ClientReply,
        (h.serveRequests f input).1 =
          (serve (recording fun done command => (answer done command).outcome) f.json []
            input).1 := by
  have replied (done : List Command) (command : Command) : ∃ reply : ClientReply, ∀ outcome,
      (Host.ask f (stateBehind (Host.ask f) h done) command).1 = .ok outcome →
        outcome = reply.outcome := by
    have behind : (stateBehind (Host.ask f) h done).Reads :=
      stateBehind_induction (fun _ command reads => (reads.ask f command).1) reads done
    cases answered : (Host.ask f (stateBehind (Host.ask f) h done) command).1 with
    | error abort => exact ⟨.wrote [], nofun⟩
    | ok outcome =>
      obtain ⟨reply, hreply⟩ := (behind.ask f command).2 outcome answered
      exact ⟨reply, fun _ same => by rw [← Except.ok.inj same, hreply]⟩
  choose answer agrees using replied
  exact (serve_eq_recording f.json agrees input).imp_right fun same => ⟨answer, same⟩

/-- **A session writes one line for each answer.** For every text as the input, with or without
JSON:
* Let every command be answered by any reply, that is by any output of the client or any failure,
  which may depend on all that was asked before. The line feeds among the bytes that are written
  are as many as the commands, the requests for help and the lines that are no request together.
  Right behind a prompt, a command writes its outcome and a line feed: the text to display, or the
  written form as JSON, in which there is no line feed.
* The client of a host answers by such replies, unless the session is aborted. -/
theorem framed_serve (json : Bool) (text : List Char) :
    (∀ answer : List Command → Command → ClientReply,
      let outcomes := fun done command => (answer done command).outcome
      let lines := cutBehind '\n' text
      let r := Mode.top.run (lines.map some)
      let requests := Mode.top.requests lines
      let pieces := transcript outcomes json [] r.turns
      serve (recording outcomes) json [] (Utf8.encode text) =
        (.ok ⟨String.join pieces, r.commands.length, none,
          Utf8.encode (lines.drop r.count).flatten⟩, r.commands) ∧
      (Utf8.encode (String.join pieces).toList).count 0x0A =
        r.commands.length + requests.count .help + requests.countP Request.isInvalid ∧
      ∀ before command after, r.turns = before ++ .call command :: after →
        let asked := before.filterMap Turn.command?
        let o := outcomes asked command
        let content := if json then o.json else o.displayText
        (∃ m : Mode, before.getLast? = some m.prompt) ∧ '\n' ∉ content.toList ∧
        pieces = transcript outcomes json [] before ++ (content ++ "\n") ::
          transcript outcomes json (asked ++ [command]) after) ∧
    ∀ (f : Front) (h : Host), f.json = json → h.Reads →
      (∃ abort, (h.serveRequests f (Utf8.encode text)).1 = .error abort) ∨
      ∃ answer : List Command → Command → ClientReply, (h.serveRequests f (Utf8.encode text)).1 =
        (serve (recording fun done command => (answer done command).outcome) json []
          (Utf8.encode text)).1 := by
  refine ⟨fun answer => ?_, fun f h hjson reads => ?_⟩
  · intro outcomes lines r requests pieces
    refine ⟨?served, ?counted, fun before command after hturns => ?framed⟩
    case served =>
      have hfault : r.fault = none := Mode.fault_run_map_some .top lines
      have hunread : ((lines.map Utf8.encode).drop r.count).flatten =
          Utf8.encode (lines.drop r.count).flatten := by
        rw [← List.map_drop, Utf8.encode_flatten]
      calc serve (recording outcomes) json [] (Utf8.encode text)
          = r.perform (recording outcomes) json (.start []) (lines.map Utf8.encode) :=
            serve_encode (recording outcomes) json [] text
        _ = _ := by rw [perform_recording, hunread, hfault, Option.map_none]
    case counted =>
      have flat : ∀ turn ∈ r.turns, turn.Flat := fun turn there =>
        Mode.flat_of_mem_run (fun line => notMem_dropLast_of_mem_cutBehind) there
      calc (Utf8.encode (String.join pieces).toList).count 0x0A
          = (String.join pieces).toList.count '\n' := Utf8.count_lineFeed_encode _
        _ = r.commands.length + r.turns.countP Turn.isSay :=
            count_lineFeed_join_transcript outcomes json
              (fun done command => (answer done command).lineFeed_notMem_content json) flat []
        _ = r.commands.length + requests.count .help + requests.countP Request.isInvalid := by
            rw [Mode.countP_isSay_run, Nat.add_assoc]
    case framed =>
      intro asked o content
      refine ⟨Mode.exists_prompt_of_run hturns, (answer asked command).lineFeed_notMem_content json,
        ?_⟩
      calc pieces
          = transcript outcomes json [] (before ++ .call command :: after) := by rw [← hturns]
        _ = transcript outcomes json [] before ++ (content ++ "\n") ::
              transcript outcomes json (asked ++ [command]) after := by
            rw [transcript_append, List.nil_append, transcript, Outcome.line]
  · exact hjson ▸ exists_replies_of_serveRequests reads f (Utf8.encode text)

/-- An output of three lines, the second empty and the last no text, is one line of a session. -/
example : (ClientReply.wrote [[0x61, 0x0D, 0x0A, 0x0A], [0xFF]]).outcome.line false =
    "a  \uFFFD\n" := by
  cbv

end Session

end InspectionHost
