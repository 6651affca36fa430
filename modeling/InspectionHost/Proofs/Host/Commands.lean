import InspectionHost.Proofs.Host.Arguments
import InspectionHost.Proofs.Host.ExitCode
import InspectionHost.Proofs.Session.Commands

/-!
# The commands of an action

The client asks nobody whether a command makes sense, and neither does the loop over candidates: an
action that takes a pattern refuses a blank one before it does anything, and a session refuses it
line by line. Since calls start nothing but their own clients, every client of an action is started
for a command that the action issues, and no such command has a blank pattern.

## Main definitions

* `CommandLine.Action.Issues` : the commands that an action may issue.
* `CommandLine.Action.wantsServer` : whether an action starts the server.

## Main results

* `CommandLine.Action.Issues.usable` : no issued command has a blank pattern.
* `Host.serves_perform` : an action starts clients for its commands, and the server.
* `Host.clients_of_perform` : what the clients of an action are started with.
-/

namespace InspectionHost

open InspectionHost.CommandLine InspectionHost.Session InspectionHost.Text

namespace CommandLine.Action

/-- The commands that an action may issue. -/
inductive Issues : Action → Command → Prop where
  | parse {pattern : String} (json : Bool) (usable : allBlank pattern.toList = false) :
    Issues (.parse pattern json) (.parse pattern)
  | explain {pattern : String} (json : Bool) (usable : allBlank pattern.toList = false) :
    Issues (.explain pattern json) (.explain pattern)
  /-- A candidate of the command line is taken as it is, also when it is empty. -/
  | matching {pattern : String} (candidate : String) (json : Bool)
      (usable : allBlank pattern.toList = false) :
    Issues (.matching pattern (some candidate) json) (.matching pattern candidate)
  /-- A candidate of the input is the text of a line. -/
  | candidate {pattern : String} (candidate : LineText) (json : Bool)
      (usable : allBlank pattern.toList = false) :
    Issues (.matching pattern none json) (.matching pattern candidate.string)
  /-- A request of the input carries its pattern, and its candidates are texts of lines. -/
  | request {command : Command} (noServer json : Bool) (ofLines : command.IsOfLines) :
    Issues (.session noServer json) command

/-- No issued command has a blank pattern. -/
theorem Issues.usable {a : Action} {command : Command} (h : a.Issues command) :
    allBlank command.pattern.toList = false := by
  cases h with
  | request noServer json ofLines => exact ofLines.usable
  | parse _ usable | explain _ usable | matching _ _ usable | candidate _ _ usable => exact usable

theorem issues_of_command? {a : Action} {command : Command} {json : Bool}
    (asked : a.command? = some (command, json)) (blank : ¬ a.IsBlank) : a.Issues command := by
  have usable := Bool.not_eq_true _ ▸ Host.usable_of_command? asked blank
  cases a with
  | server | session noServer json => simp [command?] at asked
  | parse pattern json =>
    obtain ⟨rfl, rfl⟩ := Prod.mk.inj (Option.some.inj asked)
    exact .parse json usable
  | explain pattern json =>
    obtain ⟨rfl, rfl⟩ := Prod.mk.inj (Option.some.inj asked)
    exact .explain json usable
  | matching pattern candidate json =>
    cases candidate with
    | none => simp [command?] at asked
    | some candidate =>
      obtain ⟨rfl, rfl⟩ := Prod.mk.inj (Option.some.inj asked)
      exact .matching candidate json usable

/-- Whether an action starts the server. -/
def wantsServer (settings : Settings) : Action → Bool
  | server => true
  | session noServer _ => settings.startServer && !noServer
  | parse _ _ | explain _ _ | matching _ _ _ => false

end CommandLine.Action

namespace Host

variable {P : CallRequest → Prop} {most : Nat} {h k : Host}

/-! ### Hosts on which an action begins -/

theorem Fresh.serves (fresh : h.Fresh) (silent : h.log = [])
    (idle : h.supervisor.supervision = .finished) : h.Serves P 0 := by
  refine ⟨fun c there => ?_, fun n args there => ?_, ?_⟩
  · simp [fresh.calls] at there
  · simp [Machine.arguments, fresh.processes] at there
  · simp [Host.servers, silent, dueServers, idle]

theorem Fresh.serves_withSupervisor (fresh : h.Fresh) (silent : h.log = []) (settings : Settings)
    (sink : Sink) : (h.withSupervisor settings sink).Serves P 0 :=
  Fresh.serves (h := h.withSupervisor settings sink) ⟨fresh.calls, fresh.processes⟩ silent rfl

/-- A started supervisor has one server left to launch. -/
theorem Serves.startServer (serves : h.Serves P most) (started : h.startServer = .ok k) :
    k.Serves P (most + 1) := by
  unfold Host.startServer at started
  rcases again : h.supervisor.start with e | supervisor <;> rw [again] at started
  · contradiction
  obtain rfl := Except.ok.inj started
  refine ⟨serves.calls, serves.processes, ?_⟩
  have few : h.servers.length ≤ most := Nat.le_of_add_right_le serves.servers
  have due : ∀ k : Host, k.dueServers ≤ 1 := fun k => by
    unfold dueServers
    split <;> omega
  exact Nat.add_le_add few (due _)

theorem Serves.askHandle {α : Type} (serves : h.Serves P most)
    (ask : ServerHandle → α × ServerHandle) : (h.askHandle ask).2.Serves P most := by
  unfold Host.askHandle
  split
  · exact serves
  · exact ⟨serves.calls, serves.processes, serves.servers⟩

theorem Serves.waitExit (serves : h.Serves P most) : h.waitExit.2.Serves P most := by
  unfold Host.waitExit waitExitFor
  split
  · exact serves
  · exact (serves.waitUntil exitKnown h.patience).askHandle _

/-! ### Actions -/

section Perform

variable {settings : Settings} {sink : Sink} {a : Action}

/-- A request of an action, whose answer the action waits for. -/
def Asks (settings : Settings) (sink : Sink) (a : Action) (r : CallRequest) : Prop :=
  a.Issues r.command ∧ r.client = .ofOptions settings.callOptions ∧ r.sink = sink ∧ r.token = none

theorem keeps_ask (json : Bool) : Keeps (ask ⟨.ofOptions settings.callOptions, sink, json⟩) a.Issues
    (Serves (Asks settings sink a) most) :=
  fun _ _ issued serves => serves.ask ⟨issued, rfl, rfl, rfl⟩

theorem serves_opened {noServer json : Bool} (action : a = .session noServer json)
    (serves : (h.withSupervisor settings sink).Serves P 0) :
    (h.opened settings sink noServer).Serves P (if a.wantsServer settings then 1 else 0) := by
  have wanted : a.wantsServer settings = (settings.startServer && !noServer) := by rw [action]; rfl
  rw [wanted, opened]
  split
  · exact serves.startServer rfl
  · exact serves

theorem serves_session {noServer json : Bool} (action : a = .session noServer json)
    (serves : h.Serves (Asks settings sink a) most) (text : List Char) :
    (serve (ask ⟨.ofOptions settings.callOptions, sink, json⟩) json h (Utf8.encode text)).2.Serves
      (Asks settings sink a) most := by
  refine (keeps_ask json).serve (fun command asked => ?_) serves
  have ofLines : command.IsOfLines := Mode.isOfLines_of_mem_commands (m := .top) trivial
    (fun _ => notMem_dropLast_of_mem_cutBehind) asked
  exact action ▸ .request noServer json ofLines

theorem serves_runServer (serves : (h.withSupervisor settings sink).Serves P most) (f : Front)
    (sinks : f.sink = sink) (input : List UInt8) :
    (h.runServer f settings input).2.Serves P (most + 1) := by
  subst sinks
  obtain ⟨k, started⟩ : ∃ k, (h.withSupervisor settings f.sink).startServer = .ok k := ⟨_, rfl⟩
  have ended := (serves.startServer started).waitExit
  simp only [runServer, started]
  rcases told : k.waitExit with ⟨_ | _ | exit, l⟩ <;> rw [told] at ended <;> exact ended

theorem serves_candidates {pattern : String} {json : Bool}
    (action : a = .matching pattern none json) (usable : allBlank pattern.toList = false)
    (serves : h.Serves (Asks settings sink a) most) (text : List Char) :
    (serveCandidates (ask ⟨.ofOptions settings.callOptions, sink, json⟩) json pattern h
      (Utf8.encode text)).2.Serves (Asks settings sink a) most := by
  refine (keeps_ask json).serveCandidates (fun line there candidate given => ?_) serves
  rw [candidate?_eq] at given
  obtain ⟨visible, same⟩ := Option.ite_none_left_eq_some.1 given
  obtain ⟨t, ht⟩ := exists_lineText (notMem_dropLast_of_mem_cutBehind there)
    (Bool.not_eq_true _ ▸ visible)
  have text : candidate = t.string := by rw [LineText.string, ht, Option.some.inj same]
  exact action ▸ text ▸ .candidate t json usable

/-- An action starts clients for its commands, and the server if it wants it. -/
theorem serves_perform (fresh : h.Fresh) (silent : h.log = [])
    (idle : h.supervisor.supervision = .finished) (settings : Settings) (sink : Sink) (a : Action)
    (text : List Char) :
    (h.perform settings sink a (Utf8.encode text)).2.Serves (Asks settings sink a)
      (if a.wantsServer settings then 1 else 0) := by
  have serves : h.Serves (Asks settings sink a) 0 := fresh.serves silent idle
  by_cases blank : a.IsBlank
  · have unwanted : a.wantsServer settings = false := by
      obtain ⟨pattern, hpattern, -⟩ := blank
      cases a <;> simp_all [Action.pattern?, Action.wantsServer]
    rw [perform_of_blank blank, unwanted]
    exact serves
  cases asked : a.command? with
  | some command =>
    obtain ⟨command, json⟩ := command
    have unwanted : a.wantsServer settings = false := by
      cases a <;> simp_all [Action.command?, Action.wantsServer]
    have answered :
        (h.ask ⟨.ofOptions settings.callOptions, sink, json⟩ command).2.Serves
          (Asks settings sink a) 0 :=
      keeps_ask json h command (Action.issues_of_command? asked blank) serves
    rw [perform_of_command? asked, unwanted]
    have usable := usable_of_command? asked blank
    rcases told : h.ask ⟨.ofOptions settings.callOptions, sink, json⟩ command with
      ⟨abort | outcome, k⟩ <;> rw [told] at answered
    · rw [runCommand_of_abort usable told]
      exact answered
    · rw [runCommand_of_outcome usable told]
      exact answered
  | none =>
    cases a with
    | parse pattern json | explain pattern json => simp [Action.command?] at asked
    | matching pattern candidate json =>
      cases candidate with
      | some candidate => simp [Action.command?] at asked
      | none =>
        have usable : ¬ allBlank pattern.toList = true := fun h => blank ⟨_, rfl, h⟩
        rw [perform_candidates usable]
        exact serves_candidates rfl (Bool.not_eq_true _ ▸ usable) serves text
    | session noServer json =>
      rw [perform_session]
      exact serves_session rfl
        (serves_opened rfl (fresh.serves_withSupervisor silent settings sink)) text
    | server =>
      exact serves_runServer (fresh.serves_withSupervisor silent settings sink) _ rfl _

theorem perform_of_invalid {text line : List Char} {before after : List (List Char)}
    {fault : RequestFault} (cut : cutBehind '\n' text = before ++ line :: after)
    (reached : Mode.top.behind before = some .top) (rejected : Request.ofLine line = .invalid fault)
    (h : Host) (settings : Settings) (sink : Sink) (noServer json : Bool) :
    let e := h.perform settings sink (.session noServer json) (Utf8.encode text)
    let e' := h.perform settings sink (.session noServer json)
      (Utf8.encode (before ++ after).flatten)
    e.2 = e'.2 ∧ e.1.map Exchange.calls = e'.1.map Exchange.calls := by
  simp only [perform_session]
  exact serve_of_invalid (ask ⟨.ofOptions settings.callOptions, sink, json⟩) json cut reached
    rejected (h.opened settings sink noServer)

/-- **No client is asked about a blank pattern.** Let nothing have begun on a host. Then for all
settings, every action and every text as the input:

* Every process but the server was started as a client for a command that the action issues. Its
  pattern has a character that is not blank, and it is launched with the question, the pattern, and
  for a match the candidate: that of the command line as it is, or the text of a line of the input.
* There is at most one server, and none if the action does not want it.
* An action with a blank pattern leaves the host as it was.
* A request of a session that is refused leaves the host as if it had not been there. -/
theorem clients_of_perform {h : Host} (fresh : h.Fresh) (silent : h.log = [])
    (idle : h.supervisor.supervision = .finished) (settings : Settings) (sink : Sink) (a : Action)
    (text : List Char) :
    let client := Client.ofOptions settings.callOptions
    let r := h.perform settings sink a (Utf8.encode text)
    (∀ n args, r.2.machine.arguments[n]? = some args → n ∈ r.2.servers ∨
      ∃ command, a.Issues command ∧ allBlank command.pattern.toList = false ∧
        (∀ path, (client.launch path command).arguments =
          [command.subcommand, command.pattern] ++ command.candidate?.toList) ∧
        (⟨client, command, sink, none⟩ : CallRequest).Starts args) ∧
    r.2.servers.length ≤ (if a.wantsServer settings then 1 else 0) ∧
    (a.IsBlank → r = (.ok ⟨"", 0, some (.host .emptyPattern), Utf8.encode text⟩, h)) ∧
    ∀ noServer json, a = .session noServer json → ∀ before line after fault,
      cutBehind '\n' text = before ++ line :: after → Mode.top.behind before = some .top →
      Request.ofLine line = .invalid fault →
        let r' := h.perform settings sink a (Utf8.encode (before ++ after).flatten)
        r.2 = r'.2 ∧ r.1.map Exchange.calls = r'.1.map Exchange.calls := by
  intro client r
  have serves := serves_perform fresh silent idle settings sink a text
  refine ⟨fun n args there => ?_, Nat.le_of_add_right_le serves.servers, perform_of_blank, ?_⟩
  · rcases serves.processes n args there with server | ⟨⟨_, command, _, _⟩, asks, starts⟩
    · exact .inl server
    · obtain ⟨issued, rfl, rfl, rfl⟩ := asks
      exact .inr ⟨command, issued, issued.usable, fun _ => command.arguments_eq, starts⟩
  · rintro noServer json rfl before line after fault cut reached rejected
    exact perform_of_invalid cut reached rejected h settings sink noServer json

/-- A request with a blank pattern in front of another request. -/
theorem clients_of_perform_blank_request :
    let h : Host := .new (.boot ⟨[]⟩ []) ⟨[]⟩ [] (.new "" none .log)
    let serve (text : String) :=
      (h.perform .standard .log (.session false false) (Utf8.encode text.toList)).2
    h.Fresh ∧ h.log = [] ∧ h.supervisor.supervision = .finished ∧
      Request.ofLine "parse \u2003\n".toList = .invalid (.emptyPattern "parse") ∧
      serve "parse \u2003\nparse a\n" = serve "parse a\n" := by
  intro h serve
  have fresh : h.Fresh := ⟨rfl, rfl⟩
  have rejected : Request.ofLine "parse \u2003\n".toList = .invalid (.emptyPattern "parse") := by
    decide
  have cut : cutBehind '\n' "parse \u2003\nparse a\n".toList =
      [] ++ "parse \u2003\n".toList :: ["parse a\n".toList] := by
    decide
  exact ⟨fresh, rfl, rfl, rejected, ((clients_of_perform fresh rfl rfl .standard .log
    (.session false false) "parse \u2003\nparse a\n".toList).2.2.2 false false rfl [] _ _ _ cut rfl
    rejected).1⟩

end Perform

end Host

end InspectionHost
