import InspectionHost.Proofs.Host.Patience
import InspectionHost.Proofs.Host.Server

/-!
# What actions do

An action has one command, or it serves the lines of its input, or it runs the server. A blank
pattern is refused before anything is done. Where the sink takes diagnostics an action is aborted in
two ways only: the host gives up when it has waited as long as it is patient, or a client is
launched when the clock cannot show when the time of its call is over.

The first is a matter of patience. With enough of it every action has one result, unless it waits
for a process that never ends or whose output is never closed.

## Main definitions

* `CommandLine.Action.pattern?`, `CommandLine.Action.command?` : the pattern of an action, and its
  one command.
* `Host.opened` : the host on which a session serves its input.
* `Host.Halts` : how an action is aborted.

## Main results

* `Host.perform_of_blank` and its like : what an action does.
* `Host.served_perform` : what becomes of the input of an action.
* `Host.settles_or_lasts_perform` : with enough patience an action has one result.
-/

namespace InspectionHost

open InspectionHost.CommandLine InspectionHost.Session InspectionHost.Text

namespace CommandLine.Action

/-- The pattern of an action. -/
def pattern? : Action → Option String
  | parse pattern _ | explain pattern _ | matching pattern _ _ => some pattern
  | server | session _ _ => none

/-- The one command of an action, and whether its outcome is written as JSON. -/
def command? : Action → Option (Command × Bool)
  | parse pattern json => some (.parse pattern, json)
  | explain pattern json => some (.explain pattern, json)
  | matching pattern (some candidate) json => some (.matching pattern candidate, json)
  | matching _ none _ | server | session _ _ => none

/-- Whether an action has a pattern that is blank. -/
def IsBlank (a : Action) : Prop :=
  ∃ pattern, a.pattern? = some pattern ∧ allBlank pattern.toList = true

theorem pattern_of_command? {a : Action} {command : Command} {json : Bool}
    (h : a.command? = some (command, json)) : a.pattern? = some command.pattern := by
  cases a with
  | matching pattern candidate json =>
    cases candidate with
    | none => contradiction
    | some candidate =>
      obtain ⟨rfl, rfl⟩ := Prod.mk.inj (Option.some.inj h)
      rfl
  | parse pattern json | explain pattern json =>
    obtain ⟨rfl, rfl⟩ := Prod.mk.inj (Option.some.inj h)
    rfl
  | server | session noServer json => contradiction

end CommandLine.Action

theorem Command.requirePattern?_of_blank {pattern : String}
    (blank : allBlank pattern.toList = true) : requirePattern? pattern = none :=
  if_pos blank

theorem Command.requirePattern?_of_not_blank {pattern : String}
    (blank : ¬ allBlank pattern.toList = true) : requirePattern? pattern = some pattern :=
  if_neg blank

namespace Host

variable {h k : Host} {settings : Settings} {sink : Sink} {a : Action} {input : List UInt8}
  {f : Front} {command : Command} {json : Bool}

/-! ### One command -/

theorem runCommand_of_blank (blank : allBlank command.pattern.toList = true) :
    h.runCommand f command input = (.ok ⟨"", 0, some (.host .emptyPattern), input⟩, h) := by
  simp only [runCommand, Command.requirePattern?_of_blank blank, refuse]

theorem runCommand_of_abort {abort : Abort} (usable : ¬ allBlank command.pattern.toList = true)
    (answer : h.ask f command = (.error abort, k)) :
    h.runCommand f command input = (.error abort, k) := by
  simp only [runCommand, Command.requirePattern?_of_not_blank usable, answer]

theorem runCommand_of_outcome {outcome : Outcome}
    (usable : ¬ allBlank command.pattern.toList = true)
    (answer : h.ask f command = (.ok outcome, k)) :
    h.runCommand f command input =
      (.ok ⟨outcome.line f.json, 1, outcome.failure?.map .call, input⟩, k) := by
  simp only [runCommand, Command.requirePattern?_of_not_blank usable, answer]

/-- An action with one command runs it. -/
theorem perform_of_command? (asked : a.command? = some (command, json)) :
    h.perform settings sink a input =
      h.runCommand ⟨.ofOptions settings.callOptions, sink, json⟩ command input := by
  cases a with
  | server | session noServer json => simp [Action.command?] at asked
  | parse pattern json | explain pattern json =>
    obtain ⟨rfl, rfl⟩ := Prod.mk.inj (Option.some.inj asked)
    rfl
  | matching pattern candidate json =>
    cases candidate with
    | none => simp [Action.command?] at asked
    | some candidate =>
      obtain ⟨rfl, rfl⟩ := Prod.mk.inj (Option.some.inj asked)
      simp only [perform]
      unfold runMatch
      by_cases blank : allBlank pattern.toList = true
      · have refused : h.runCommand ⟨.ofOptions settings.callOptions, sink, json⟩
            (.matching pattern candidate) input =
              (.ok ⟨"", 0, some (.host .emptyPattern), input⟩, h) := runCommand_of_blank blank
        simp only [Command.requirePattern?_of_blank blank, refused, refuse]
      · simp only [Command.requirePattern?_of_not_blank blank]

/-- A blank pattern is refused. -/
theorem perform_of_blank (blank : a.IsBlank) :
    h.perform settings sink a input = (.ok ⟨"", 0, some (.host .emptyPattern), input⟩, h) := by
  cases asked : a.command? with
  | some command =>
    obtain ⟨command, json⟩ := command
    obtain ⟨pattern, hpattern, blank⟩ := blank
    obtain rfl := Option.some.inj ((Action.pattern_of_command? asked).symm.trans hpattern)
    rw [perform_of_command? asked, runCommand_of_blank blank]
  | none =>
    obtain ⟨pattern, hpattern, blank⟩ := blank
    cases a with
    | parse pattern json | explain pattern json => simp [Action.command?] at asked
    | server | session noServer json => simp [Action.pattern?] at hpattern
    | matching pattern' candidate json =>
      obtain rfl := Option.some.inj hpattern
      simp only [perform]
      unfold runMatch
      simp only [Command.requirePattern?_of_blank blank, refuse]

theorem usable_of_command? (asked : a.command? = some (command, json)) (blank : ¬ a.IsBlank) :
    ¬ allBlank command.pattern.toList = true :=
  fun h => blank ⟨_, Action.pattern_of_command? asked, h⟩

/-! ### Inputs -/

theorem perform_candidates {pattern : String} (usable : ¬ allBlank pattern.toList = true)
    (json : Bool) : h.perform settings sink (.matching pattern none json) input =
      serveCandidates (ask ⟨.ofOptions settings.callOptions, sink, json⟩) json pattern h input := by
  simp only [perform]
  unfold runMatch
  simp only [Command.requirePattern?_of_not_blank usable]
  rfl

/-- The host on which a session serves its input: the supervisor is started, unless no server is
wanted. -/
def opened (h : Host) (settings : Settings) (sink : Sink) (noServer : Bool) : Host :=
  if settings.startServer && !noServer then h.withServer settings sink
  else h.withSupervisor settings sink

theorem openSession_eq (h : Host) (settings : Settings) (sink : Sink) (noServer : Bool) :
    h.openSession settings sink noServer = .ok (h.opened settings sink noServer) := by
  unfold openSession opened
  split <;> rfl

theorem perform_session (noServer json : Bool) :
    h.perform settings sink (.session noServer json) input =
      serve (ask ⟨.ofOptions settings.callOptions, sink, json⟩) json
        (h.opened settings sink noServer) input := by
  simp only [perform, runSession, openSession_eq]
  rfl

theorem machine_opened (h : Host) (settings : Settings) (sink : Sink) (noServer : Bool) :
    (h.opened settings sink noServer).machine = h.machine := by
  unfold opened
  split <;> rfl

theorem withPatience_opened (n : Nat) (h : Host) (settings : Settings) (sink : Sink)
    (noServer : Bool) : (h.withPatience n).opened settings sink noServer =
      (h.opened settings sink noServer).withPatience n := by
  unfold opened
  split <;> rfl

/-! ### Aborts -/

/-- How an action is aborted that reports to a sink that takes diagnostics, where its calls have a
time or none. -/
inductive Halts (h : Host) (timeout : Option Duration) : Abort → Host → Prop where
  /-- The host has waited as long as it is patient. -/
  | impatient {k : Host} (waited : h.Waited k) : Halts h timeout .unending k
  /-- The clock cannot show when the time of a call is over. -/
  | overflow {k : Host} {limit : Duration} (timed : timeout = some limit)
      (beyond : Clock.limit ≤ k.machine.now + limit.nanos) : Halts h timeout .clockOverflow k

/-- A host is later than another one, and as patient. -/
structure Follows (h k : Host) : Prop where
  now : h.machine.now ≤ k.machine.now
  patience : k.patience = h.patience

theorem Follows.refl (h : Host) : h.Follows h :=
  ⟨Nat.le_refl _, rfl⟩

/-- An action that is aborted on a later host is aborted on an earlier one. -/
theorem Follows.halts {l : Host} {timeout : Option Duration} {abort : Abort}
    (follows : h.Follows k) (halts : k.Halts timeout abort l) : h.Halts timeout abort l := by
  cases halts with
  | impatient waited =>
    refine .impatient (Nat.le_trans ?_ waited)
    rw [follows.patience]
    exact Nat.add_le_add_right follows.now _
  | overflow timed beyond => exact .overflow timed beyond

theorem Follows.ask (follows : h.Follows k) (f : Front) (command : Command) :
    h.Follows (k.ask f command).2 := by
  let r : CallRequest := ⟨f.client, command, f.sink, none⟩
  have asked : (k.ask f command).2 =
      (k.withCall r).waitUntil (isOver k.calls.length) (k.withCall r).patience := by
    rw [Host.ask, execute_eq]
    rfl
  have later := now_le_now_waitUntil (isOver k.calls.length) (k.withCall r).patience (k.withCall r)
  rw [now_withCall] at later
  rw [asked]
  refine ⟨Nat.le_trans follows.now later, ?_⟩
  rw [patience_waitUntil (fun _ _ => rfl), patience_withCall, follows.patience]

/-- A client whose sink takes diagnostics answers, unless an action is aborted. -/
theorem ask_cases (sinkListens : f.sink ≠ .refusing) (h : Host) (command : Command) :
    (∃ outcome, (h.ask f command).1 = .ok outcome) ∨ ∃ abort,
      (h.ask f command).1 = .error abort ∧
        h.Halts f.client.options.timeout abort (h.ask f command).2 := by
  rcases h.result_of_execute_of_listens sinkListens f.client command none with
    ⟨unending, waited⟩ | ⟨ending, brought⟩ | ⟨aborted, limit, timed, beyond⟩
  · exact .inr ⟨_, unending, .impatient waited⟩
  · exact .inl ⟨_, brought⟩
  · have later := ((Follows.refl h).ask f command).now
    exact .inr ⟨_, aborted, .overflow timed (by omega)⟩

theorem answers_ask (sinkListens : f.sink ≠ .refusing) (h : Host) :
    Answers (ask f) h.Follows (h.Halts f.client.options.timeout) := by
  refine fun k command follows => ⟨follows.ask f command, fun abort given => ?_⟩
  rcases ask_cases sinkListens k command with ⟨outcome, answered⟩ | ⟨abort', aborted, halts⟩
  · simp [answered] at given
  · obtain rfl := Except.error.inj (aborted.symm.trans given)
    exact follows.halts halts

/-- An action that reads its input serves it. -/
theorem served_perform (h : Host) (settings : Settings) (listens : sink ≠ .refusing)
    (several : a.command? = none) (reads : a ≠ .server) (blank : ¬ a.IsBlank) :
    Served (h.Halts settings.callOptions.timeout) input (h.perform settings sink a input) := by
  cases a with
  | server => exact (reads rfl).elim
  | parse pattern json | explain pattern json => simp [Action.command?] at several
  | matching pattern candidate json =>
    cases candidate with
    | some candidate => simp [Action.command?] at several
    | none =>
      rw [perform_candidates fun h => blank ⟨_, rfl, h⟩]
      exact served_serveCandidates
        (answers_ask (f := ⟨.ofOptions settings.callOptions, sink, json⟩) listens h) pattern
        (.refl h) input
  | session noServer json =>
    rw [perform_session]
    refine served_serve
      (answers_ask (f := ⟨.ofOptions settings.callOptions, sink, json⟩) listens h)
      ⟨Nat.le_of_eq ?_, ?_⟩ input
    · rw [machine_opened]
    · have same := congrArg Host.patience (withPatience_opened h.patience h settings sink noServer)
      exact same

/-! ### Patience -/

/-- An action has one result for every patience that is large enough, or it waits for a process that
lets it never end: the server, or the client of a call that has no time of its own. -/
theorem settles_or_lasts_perform (h : Host) (settings : Settings) (listens : sink ≠ .refusing)
    (a : Action) (input : List UInt8) :
    let run := fun n => (h.withPatience n).perform settings sink a input
    Settles run ∨ ((a = .server ∨ settings.callOptions.timeout = none) ∧
      ∃ process, Lasts run fun k => k.Busy process) := by
  intro run
  by_cases blank : a.IsBlank
  · exact .inl ⟨0, _, h, by simp, fun n _ => perform_of_blank blank⟩
  cases asked : a.command? with
  | some command =>
    obtain ⟨command, json⟩ := command
    let f : Front := ⟨.ofOptions settings.callOptions, sink, json⟩
    have hrun (n : Nat) : run n = (h.withPatience n).runCommand f command input :=
      perform_of_command? asked
    have usable := usable_of_command? asked blank
    rcases h.settles_or_lasts_execute f.client sink command with
      ⟨least, abort | outcome, k, ends, settled⟩ | ⟨untimed, process, least, lasting⟩
    · refine .inl ⟨least, .error abort, k, by simpa using ends, fun n enough => ?_⟩
      rw [hrun]
      exact runCommand_of_abort usable (settled n enough)
    · refine .inl ⟨least, .ok ⟨outcome.line json, 1, outcome.failure?.map .call, input⟩, k, by simp,
        fun n enough => ?_⟩
      rw [hrun]
      exact runCommand_of_outcome usable (settled n enough)
    · refine .inr ⟨.inr untimed, process, least, fun n enough => ?_⟩
      obtain ⟨k, hk, busy⟩ := lasting n enough
      rw [hrun]
      exact ⟨k, runCommand_of_abort usable hk, busy⟩
  | none =>
    cases a with
    | parse pattern json | explain pattern json => simp [Action.command?] at asked
    | matching pattern candidate json =>
      cases candidate with
      | some candidate => simp [Action.command?] at asked
      | none =>
        have usable : ¬ allBlank pattern.toList = true := fun h => blank ⟨_, rfl, h⟩
        simp only [run, perform_candidates usable]
        exact (settles_or_lasts_serveCandidates pattern h input).imp_right (.imp_left .inr)
    | session noServer json =>
      simp only [run, perform_session, withPatience_opened]
      exact (settles_or_lasts_serve (h.opened settings sink noServer) input).imp_right
        (.imp_left .inr)
    | server =>
      refine (h.settles_or_lasts_runServer (f := ⟨.ofOptions settings.callOptions, sink, false⟩)
        listens settings input).imp_right ?_
      rintro ⟨process, lasts⟩
      exact ⟨.inl rfl, process, lasts.mono fun k started => started.2.busy⟩

end Host

end InspectionHost
