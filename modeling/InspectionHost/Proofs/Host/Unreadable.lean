import InspectionHost.Proofs.Host.ExitCode
import InspectionHost.Proofs.Session.Unreadable

/-!
# A program whose input is no text

The program reads lines in two of its actions: it serves a session, and it matches the candidates of
its input. At a line that is no text both have done what they do for the lines in front, and end
with an error of the input. It is neither an error of the host nor a failed call, and the exit code
tells so.

## Main definitions

* `CommandLine.Action.GoesOn` : an action that asks for another line behind lines.

## Main results

* `Host.stops_perform` : a line that is no text stops an action.
* `Host.stops_at_unreadable_line` : what a line that is no text does to the loops and the program.
-/

namespace InspectionHost

open InspectionHost.CommandLine InspectionHost.Log InspectionHost.Session InspectionHost.Text

/-- Behind lines an action asks for another one: what it writes before it reads the line, and what
it writes behind that at the end of the input. -/
inductive CommandLine.Action.GoesOn (lines : List (List Char)) : Action → String → String → Prop
    where
  /-- A session goes on unless a line quits. -/
  | session (noServer json : Bool) {m : Mode} (reached : Mode.top.behind lines = some m) :
    GoesOn lines (.session noServer json) m.words m.closing
  /-- A loop over candidates goes on unless a line is blank. -/
  | candidates {pattern : String} (json : Bool) (usable : allBlank pattern.toList = false)
      (visible : ∀ line ∈ lines, allBlank line = false) :
    GoesOn lines (.matching pattern none json) candidatePrompt ""

namespace Host

variable {h k : Host} {settings : Settings} {sink : Sink} {a : Action} {prompt closing : String}
  {input bad : List UInt8} {lines rest : List (List UInt8)} {texts : List (List Char)}

theorem reads_of_goesOn (goesOn : a.GoesOn texts prompt closing) :
    a.command? = none ∧ a ≠ .server ∧ ¬ a.IsBlank := by
  cases goesOn with
  | session noServer json reached =>
    refine ⟨rfl, nofun, ?_⟩
    rintro ⟨pattern, given, -⟩
    cases given
  | candidates json usable visible =>
    refine ⟨rfl, nofun, ?_⟩
    rintro ⟨pattern, given, blank⟩
    cases given
    simp [usable] at blank

section Stops

variable (cut : cutBehind 0x0A input = lines ++ bad :: rest)
  (decoded : lines.map Utf8.decode? = texts.map some) (unreadable : Utf8.decode? bad = none)

include cut decoded unreadable

/-- A line that is no text stops an action that asks for it. -/
theorem stops_perform (goesOn : a.GoesOn texts prompt closing) (h : Host) (settings : Settings)
    (sink : Sink) :
    Stops (ask ⟨.ofOptions settings.callOptions, sink, false⟩) prompt closing rest.flatten
      (h.perform settings sink a lines.flatten) (h.perform settings sink a input) := by
  cases goesOn with
  | session noServer json reached =>
    rw [perform_session, perform_session]
    exact stops_serve _ json cut decoded unreadable reached _
  | candidates json usable visible =>
    have usable : ¬ _ = true := Bool.not_eq_true _ ▸ usable
    rw [perform_candidates usable, perform_candidates usable]
    exact stops_serveCandidates _ json cut decoded unreadable visible _ h

end Stops

/-- **A line that is no text stops what reads it.** Let an input have lines that are texts, behind
them a line that is none, and whatever behind that.

* A session that has not been told to quit by these lines, in whichever mode it is behind them, has
  done what it does if they are all of its input: whoever answers is in the same state, as many
  calls have been made, and the same is written up to and including the prompt for the line. Then
  it ends with an error of the input, and does nothing with what follows. Only where an answer is
  aborted both are, and leave the same state.
* So it is with a loop over candidates, if none of these lines is blank.
* An action of the program that goes on behind these lines stops in the same way. On a host where
  nothing has begun it ends with the exit code 4 and the text of the error. Two things may prevent
  that: the host gives up when it has waited as long as it is patient; or a client is launched when
  the clock cannot show when the time of its call is over, and the code is 101.
* With enough patience the action has one result, or it waits for the client of a call that has no
  time of its own. -/
theorem stops_at_unreadable_line {input bad : List UInt8} {lines rest : List (List UInt8)}
    {texts : List (List Char)} (cut : cutBehind 0x0A input = lines ++ bad :: rest)
    (decoded : lines.map Utf8.decode? = texts.map some) (unreadable : Utf8.decode? bad = none) :
    (∀ m, Mode.top.behind texts = some m →
      ∀ {σ : Type} (ask : σ → Command → Except Abort Outcome × σ) (json : Bool) (s : σ),
        Stops ask m.words m.closing rest.flatten (serve ask json s lines.flatten)
          (serve ask json s input)) ∧
    ((∀ text ∈ texts, allBlank text = false) →
      ∀ {σ : Type} (ask : σ → Command → Except Abort Outcome × σ) (json : Bool) (pattern : String)
        (s : σ), Stops ask "candidate> " "" rest.flatten
          (serveCandidates ask json pattern s lines.flatten)
          (serveCandidates ask json pattern s input)) ∧
    ∀ (a : Action) (prompt closing : String), a.GoesOn texts prompt closing →
      ∀ (h : Host) (settings : Settings) (sink : Sink),
        Stops (ask ⟨.ofOptions settings.callOptions, sink, false⟩) prompt closing rest.flatten
          (h.perform settings sink a lines.flatten) (h.perform settings sink a input) ∧
        ∀ (words : List String) (i : Invocation) (filter : LogFilter), h.Fresh → i.action = a →
          Invocation.ofWords (h.environment.get? "RWP_CONFIG") words = .ok i →
          LogFilter.ofRun i.verbose (h.environment.get? "RUST_LOG") = .ok filter →
          Settings.resolve h.machine.files h.directory h.environment i = .ok settings →
          let performed := h.perform settings .log a input
          ((performed.1 = .error .unending ∧ h.Waited performed.2) ∨
            (performed.1 = .error .clockOverflow ∧
              (∃ limit, settings.callOptions.timeout = some limit ∧
                Clock.limit ≤ performed.2.machine.now + limit.nanos) ∧
              (h.runProgram words input).exitCode = 101) ∨
            ∃ written calls k,
              h.perform settings .log a lines.flatten =
                (.ok ⟨written ++ prompt ++ closing, calls, none, []⟩, k) ∧
              h.runProgram words input = k.report filter i.jsonOutput
                ⟨written ++ prompt, calls, some (.io .invalidUtf8), rest.flatten⟩ ∧
              (h.runProgram words input).exitCode = 4 ∧
              (h.runProgram words input).output = written ++ prompt) ∧
          let run := fun n => (h.withPatience n).perform settings .log a input
          Settles run ∨ (settings.callOptions.timeout = none ∧
            ∃ process, Lasts run fun k => k.Busy process) := by
  refine ⟨fun m reached _ ask json s => stops_serve ask json cut decoded unreadable reached s,
    fun visible _ ask json pattern s =>
      stops_serveCandidates ask json cut decoded unreadable visible pattern s,
    fun a prompt closing goesOn h settings sink =>
      ⟨stops_perform cut decoded unreadable goesOn h settings sink, ?_⟩⟩
  rintro words i filter fresh rfl understood readable settled
  obtain ⟨several, reads, blank⟩ := reads_of_goesOn goesOn
  have listens : Sink.log ≠ .refusing := nofun
  refine ⟨?_, (h.settles_or_lasts_perform settings listens i.action input).imp_right
    (.imp_left fun waits => waits.resolve_left reads)⟩
  have served : Served (h.Halts settings.callOptions.timeout) input
      (h.perform settings .log i.action input) :=
    h.served_perform settings listens several reads blank
  have stops := stops_perform cut decoded unreadable goesOn h settings .log
  rcases performed : h.perform settings .log i.action input with ⟨result, k⟩
  rcases alone : h.perform settings .log i.action lines.flatten with ⟨result', k'⟩
  rw [performed, alone] at stops
  rw [performed] at served
  cases stops with
  | aborted abort _ _ =>
    cases served with
    | aborted _ _ halts =>
      cases halts with
      | impatient waited => exact .inl ⟨rfl, waited⟩
      | overflow timed beyond =>
        refine .inr (.inl ⟨rfl, ⟨_, timed, beyond⟩, ?_⟩)
        rw [runProgram_of_overflow understood readable settled performed]
        rfl
  | stopped written calls _ =>
    have report := runProgram_of_exchange understood readable settled performed
    refine .inr (.inr ⟨written, calls, k, rfl, report, ?_, ?_⟩)
    · rw [report, exitCode_report]
      rfl
    · rw [report]
      rfl

/-- A loop over candidates in a session meets the line, and a request stands behind it. -/
theorem stops_at_unreadable_line_in_loop :
    let h : Host := .new (.boot ⟨[]⟩ []) ⟨[]⟩ [] (.new "" none .log)
    let words := ["session", "--no-server"]
    let lines := ["help\n", "match a\n"]
    let input := (lines.map fun line => Utf8.encode line.toList).flatten ++
      [0xFF, 0x0A] ++ Utf8.encode "parse b\n".toList
    h.Fresh ∧ Utf8.decode? [0xFF, 0x0A] = none ∧
      Mode.top.behind (lines.map String.toList) = some (.loop "a") ∧
      (h.runProgram words input).exitCode = 4 ∧
      ∃ written, (h.runProgram words input).output = written ++ "candidate> " := by
  intro h words lines input
  let i : Invocation := ⟨false, false, none, none, none, none, .session true false⟩
  have fresh : h.Fresh := ⟨rfl, rfl⟩
  have cut : cutBehind 0x0A input = (lines.map fun line => Utf8.encode line.toList) ++
      [0xFF, 0x0A] :: [Utf8.encode "parse b\n".toList] := by decide +kernel
  have decoded : (lines.map fun line => Utf8.encode line.toList).map Utf8.decode? =
      (lines.map String.toList).map some := by decide +kernel
  have unreadable : Utf8.decode? [0xFF, 0x0A] = none := by decide +kernel
  have reached : Mode.top.behind (lines.map String.toList) = some (.loop "a") := by decide
  let L : Layout := ⟨[], .session, ⟨[.option (.long .noServer)], none⟩⟩
  have understood : Invocation.ofWords (h.environment.get? "RWP_CONFIG") words = .ok i :=
    L.ofWords_of_fits (by decide) rfl
  have readable : LogFilter.ofRun i.verbose (h.environment.get? "RUST_LOG") = .ok (.upTo .info) :=
    rfl
  have settled : Settings.resolve h.machine.files h.directory h.environment i = .ok .standard :=
    rfl
  -- No command stands in front of the line, so nothing is waited for.
  have silent : Mode.top.run ((cutBehind 0x0A input).map Utf8.decode?) =
      ⟨[.prompt "rwp> ", .say helpLine, .prompt "rwp> ", .prompt "candidate> "],
        some .invalidUtf8, 3⟩ := by
    rw [cut]
    decide +kernel
  have ended : ∃ exchange, (h.perform .standard .log i.action input).1 = .ok exchange := by
    rw [perform_session, serve_eq_perform, silent]
    exact ⟨_, rfl⟩
  obtain ⟨-, -, program⟩ := stops_at_unreadable_line cut decoded unreadable
  obtain ⟨-, runs⟩ := program _ _ _ (.session true false reached) h .standard .log
  obtain ⟨exchange, hexchange⟩ := ended
  rcases (runs words i _ fresh rfl understood readable settled).1 with
    ⟨unending, -⟩ | ⟨overflow, -⟩ | ⟨written, _, _, -, -, code, output⟩
  · cases hexchange.symm.trans unending
  · cases hexchange.symm.trans overflow
  · exact ⟨fresh, unreadable, reached, code, written, output⟩

end Host

end InspectionHost
