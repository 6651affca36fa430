import InspectionHost.Host.Front
import InspectionHost.Proofs.Call.Report
import InspectionHost.Proofs.Server.Starts
import InspectionHost.Proofs.Session.Automaton

/-!
# The scene of a session

A session does its turns one after the other: it writes what is to be written, and for a command it
makes a call, lets the client run, and takes the result. Meanwhile the thread of a supervisor may
go on, which shares the sink with the calls and has a server of its own. When the session is over
it looks at the handle of the server once, and goes.

The steps of the session, of the client under way, and of the server come in any order. What the
clients have answered is kept, and so is everything that the sink has taken, in order.

## Main definitions

* `Session.answering`, `Session.replaying` : somebody who gives an answer that is known, and answers
  that were given before.
* `SessionScene` : a session with the client under way, and a server that may be there.
* `SessionEvent` : the events of a scene.
* `SessionScene.step?`, `SessionScene.run?` : the scene behind an event, and behind events.
* `SessionScene.Follows` : the scene does what is done with the answers that it keeps.

## Main results

* `SessionScene.run_induction` : what every step keeps a run keeps.
* `SessionScene.follows_run` : a run does what is done with the answers that it keeps.
* `SessionScene.serve_of_isOver` : a scene that is over has done what `Session.serve` does.
-/

namespace InspectionHost

open InspectionHost.Text

namespace Session

/-- What is written for a turn that asks for nothing. -/
def Turn.text? : Turn → Option String
  | prompt words => some words
  | say line => some (line ++ "\n")
  | call _ => none

theorem play_cons_of_text? {σ : Type} {ask : σ → Command → Except Abort Outcome × σ} {turn : Turn}
    {text : String} (written : turn.text? = some text) (json : Bool) (p : Progress σ)
    (rest : List Turn) : p.play ask json (turn :: rest) = (p.write text).play ask json rest := by
  cases turn with
  | prompt words | say line =>
    obtain rfl := Option.some.inj written
    rfl
  | call command => contradiction

/-- Somebody who gives an answer that is known, with a record of the answers. -/
def answering (result : Except Abort Outcome) (done : List (Command × Except Abort Outcome))
    (command : Command) : Except Abort Outcome × List (Command × Except Abort Outcome) :=
  (result, done ++ [(command, result)])

/-- Somebody who gives the answers that were given before, in their order. -/
def replaying (results : List (Except Abort Outcome))
    (done : List (Command × Except Abort Outcome)) (command : Command) :
    Except Abort Outcome × List (Command × Except Abort Outcome) :=
  answering (results[done.length]?.getD (.error .unending)) done command

theorem call_replaying (p : Progress (List (Command × Except Abort Outcome))) (json : Bool)
    (command : Command) (result : Except Abort Outcome) (more : List (Except Abort Outcome)) :
    p.call (replaying (p.state.map Prod.snd ++ result :: more)) json command =
      p.call (answering result) json command := by
  have next : (p.state.map Prod.snd ++ result :: more)[p.state.length]? = some result := by
    rw [List.getElem?_append_right (by simp)]
    simp
  simp only [Progress.call, replaying, next, Option.getD_some]

theorem state_call_answering (p : Progress (List (Command × Except Abort Outcome))) (json : Bool)
    (command : Command) (result : Except Abort Outcome) :
    (p.call (answering result) json command).2.state = p.state ++ [(command, result)] := by
  cases result <;> rfl

end Session

open Session

/-! ### The scene -/

/-- A session with the client under way, and the server beside it. -/
structure SessionScene where
  front : Front
  /-- What is still to be done. -/
  turns : List Turn
  /-- The call under way. -/
  call : Option CallScene
  /-- What is written, and what the clients have answered to which commands, in order. -/
  progress : Progress (List (Command × Except Abort Outcome))
  /-- Why the session is aborted, if it is. -/
  aborted : Option Abort
  /-- The supervisor of the server with its thread, if there is one. -/
  server : Option (ServerScene 1)
  /-- What the sink has taken, in order. -/
  reports : List Diagnostic

/-- An event of a scene. -/
inductive SessionEvent where
  /-- The session writes what its next turn says. -/
  | write
  /-- The session makes the call of its next turn, and the system answers the launch. -/
  | call (answer : LaunchAnswer)
  /-- Something happens around the call under way. -/
  | client (event : CallEvent)
  /-- The session takes the result of the call under way. -/
  | take
  /-- Something happens around the server. -/
  | server (event : ServerEvent 1)

/-- Whether an event is one of the session and its clients. -/
def SessionEvent.isSession : SessionEvent → Bool
  | server _ => false
  | write | call _ | client _ | take => true

/-- Whether an event is a launch of the server. -/
def SessionEvent.isSpawn : SessionEvent → Bool
  | server event => event.isSpawn
  | write | call _ | client _ | take => false

namespace SessionScene

/-- A session that has not begun. -/
def start (f : Front) (turns : List Turn) (server : Option (ServerScene 1)) : SessionScene :=
  ⟨f, turns, none, .start [], none, server, []⟩

/-- A session over a text, with a server that has just been started unless it is not wanted. -/
def begin (f : Front) (settings : Settings) (noServer : Bool) (text : List Char) : SessionScene :=
  .start f (Mode.top.run ((cutBehind '\n' text).map some)).turns
    (if settings.startServer && !noServer then
      some (.start settings.serverProgram settings.workingDirectory f.sink 1)
    else none)

/-- Whether the session has nothing to do any more. -/
def isOver (s : SessionScene) : Bool :=
  s.call.isNone && (s.turns.isEmpty || s.aborted.isSome)

/-- The session writes what its next turn says. -/
def write? (s : SessionScene) : Option SessionScene :=
  match s.aborted, s.call, s.turns with
  | none, none, turn :: rest =>
    turn.text?.map fun text => { s with turns := rest, progress := s.progress.write text }
  | _, _, _ => none

/-- The session makes the call of its next turn. -/
def call? (s : SessionScene) (answer : LaunchAnswer) : Option SessionScene :=
  match s.aborted, s.call, s.turns with
  | none, none, .call command :: _ =>
    some { s with call := some (.start answer ⟨s.front.client, command, s.front.sink, none⟩) }
  | _, _, _ => none

/-- Something happens around the call under way. -/
def client? (s : SessionScene) (event : CallEvent) : Option SessionScene :=
  s.call.map fun c =>
    { s with call := some (c.apply event), reports := s.reports ++ c.hands event }

/-- The session behind the answer to its next command. -/
def answered (s : SessionScene) (command : Command) (rest : List Turn)
    (result : Except Abort Outcome) : SessionScene :=
  match s.progress.call (answering result) s.front.json command with
  | (some abort, p) => { s with call := none, progress := p, aborted := some abort }
  | (none, p) => { s with call := none, progress := p, turns := rest }

/-- The session takes the result of the call under way. -/
def take? (s : SessionScene) : Option SessionScene :=
  match s.call.bind (·.call.result), s.aborted, s.turns with
  | some result, none, .call command :: rest => some (s.answered command rest result)
  | _, _, _ => none

/-- Something happens around the server. The session looks at its handle when it is over. -/
def server? (s : SessionScene) (event : ServerEvent 1) : Option SessionScene :=
  if event.isObserver && !s.isOver then none
  else
    s.server.bind fun v => (v.step? event).map fun next =>
      { s with server := some next, reports := s.reports ++ v.hands event }

/-- The scene behind an event, if it can happen. -/
def step? (s : SessionScene) : SessionEvent → Option SessionScene
  | .write => s.write?
  | .call answer => s.call? answer
  | .client event => s.client? event
  | .take => s.take?
  | .server event => s.server? event

/-- The scene behind events, if they can happen one after the other. -/
def run? (s : SessionScene) (events : List SessionEvent) : Option SessionScene :=
  events.foldlM step? s

variable {s t : SessionScene}

/-! ### When a step can be made -/

theorem write?_eq_some : s.write? = some t ↔ s.aborted = none ∧ s.call = none ∧
    ∃ turn rest text, s.turns = turn :: rest ∧ turn.text? = some text ∧
      t = { s with turns := rest, progress := s.progress.write text } := by
  unfold write?
  split
  · simp_all [Option.map_eq_some_iff, eq_comm (a := t)]
  · simp_all

theorem call?_eq_some {answer : LaunchAnswer} : s.call? answer = some t ↔ s.aborted = none ∧
    s.call = none ∧ ∃ command rest, s.turns = .call command :: rest ∧
      t = { s with
        call := some (.start answer ⟨s.front.client, command, s.front.sink, none⟩) } := by
  unfold call?
  split <;> simp_all [eq_comm (a := t)]

theorem client?_eq_some {event : CallEvent} : s.client? event = some t ↔
    ∃ c, s.call = some c ∧
      t = { s with call := some (c.apply event), reports := s.reports ++ c.hands event } := by
  simp only [client?, Option.map_eq_some_iff, eq_comm (a := t)]

theorem take?_eq_some : s.take? = some t ↔ ∃ c result command rest, s.call = some c ∧
    c.call.result = some result ∧ s.aborted = none ∧ s.turns = .call command :: rest ∧
      t = s.answered command rest result := by
  cases call : s.call with
  | none => simp [take?, call]
  | some c =>
    cases returned : c.call.result with
    | none => simp [take?, call, returned]
    | some result =>
      simp only [take?, call, Option.bind_some, returned]
      split <;> simp_all [eq_comm (a := t)]

theorem server?_eq_some {event : ServerEvent 1} : s.server? event = some t ↔
    (event.isObserver = true → s.isOver = true) ∧ ∃ v next, s.server = some v ∧
      v.step? event = some next ∧
      t = { s with server := some next, reports := s.reports ++ v.hands event } := by
  unfold server?
  split <;> simp_all [Option.bind_eq_some_iff, eq_comm (a := t)]

theorem front_step {event : SessionEvent} (moved : s.step? event = some t) :
    t.front = s.front := by
  cases event with
  | write =>
    obtain ⟨-, -, _, _, _, -, -, rfl⟩ := write?_eq_some.1 moved
    rfl
  | call answer =>
    obtain ⟨-, -, _, _, -, rfl⟩ := call?_eq_some.1 moved
    rfl
  | client event =>
    obtain ⟨_, -, rfl⟩ := client?_eq_some.1 moved
    rfl
  | take =>
    obtain ⟨_, result, command, _, -, -, -, -, rfl⟩ := take?_eq_some.1 moved
    unfold answered
    split <;> rfl
  | server event =>
    obtain ⟨-, _, _, -, -, rfl⟩ := server?_eq_some.1 moved
    rfl

/-- What holds of a scene and is kept by every step that is made holds behind events. -/
theorem run_induction {P : SessionScene → Prop} {events : List SessionEvent}
    (kept : ∀ event ∈ events, ∀ u v : SessionScene, P u → u.step? event = some v → P v)
    (start : P s) (moved : s.run? events = some t) : P t := by
  induction events generalizing s with
  | nil =>
    obtain rfl := Option.some.inj moved
    exact start
  | cons event rest ih =>
    obtain ⟨next, hstep, hrest⟩ := Option.bind_eq_some_iff.1 moved
    obtain ⟨first, later⟩ := List.forall_mem_cons.1 kept
    exact ih later (first s next start hstep) hrest

theorem front_run {events : List SessionEvent} (moved : s.run? events = some t) :
    t.front = s.front :=
  run_induction (P := fun u => u.front = s.front)
    (fun _ _ _ _ same hstep => (front_step hstep).trans same) rfl moved

/-! ### What a session does with its answers -/

/-- The scene has done what is done with the answers that it keeps, whatever answers come behind
them: who plays all turns with these answers comes to where the scene is. -/
def Follows (s : SessionScene) (turns : List Turn) : Prop :=
  ∀ more, (Progress.start []).play (replaying (s.progress.state.map Prod.snd ++ more))
      s.front.json turns =
    match s.aborted with
    | some abort => (some abort, s.progress)
    | none =>
      s.progress.play (replaying (s.progress.state.map Prod.snd ++ more)) s.front.json s.turns

variable {turns : List Turn}

theorem follows_start (f : Front) (turns : List Turn) (server : Option (ServerScene 1)) :
    (start f turns server).Follows turns :=
  fun _ => rfl

theorem Follows.answered (follows : s.Follows turns) (live : s.aborted = none) {command : Command}
    {rest : List Turn} (next : s.turns = .call command :: rest) (result : Except Abort Outcome) :
    (s.answered command rest result).Follows turns := by
  have kept := state_call_answering s.progress s.front.json command result
  have behind (more : List (Except Abort Outcome)) :
      (Progress.start []).play (replaying (s.progress.state.map Prod.snd ++ result :: more))
        s.front.json turns = _ := follows (result :: more)
  simp only [live, next, Progress.play, call_replaying] at behind
  unfold SessionScene.answered
  rcases told : s.progress.call (answering result) s.front.json command with ⟨_ | abort, p⟩ <;>
    simp only [told] at kept behind <;> intro more <;>
    simpa only [live, kept, List.map_append, List.map_cons, List.map_nil, List.append_assoc,
      List.singleton_append] using behind more

/-- The scene does what is done with its answers. -/
theorem Follows.step (follows : s.Follows turns) {event : SessionEvent}
    (moved : s.step? event = some t) : t.Follows turns := by
  cases event with
  | write =>
    obtain ⟨live, -, turn, rest, text, next, written, rfl⟩ := write?_eq_some.1 moved
    intro more
    have before := follows more
    rw [live, next, play_cons_of_text? written] at before
    simpa only [live, Progress.write] using before
  | call answer =>
    obtain ⟨-, -, _, _, -, rfl⟩ := call?_eq_some.1 moved
    exact follows
  | client event =>
    obtain ⟨_, -, rfl⟩ := client?_eq_some.1 moved
    exact follows
  | take =>
    obtain ⟨_, result, _, _, -, -, live, next, rfl⟩ := take?_eq_some.1 moved
    exact follows.answered live next result
  | server event =>
    obtain ⟨-, _, _, -, -, rfl⟩ := server?_eq_some.1 moved
    exact follows

/-- The scene does what is done with its answers, behind events. -/
theorem follows_run {events : List SessionEvent} (follows : s.Follows turns)
    (moved : s.run? events = some t) : t.Follows turns :=
  run_induction (P := fun u => u.Follows turns) (fun _ _ _ _ before hstep => before.step hstep)
    follows moved

/-- How a session is left that is over, where some input is not read. -/
def outcome (s : SessionScene) (unread : List (List UInt8)) : Except Abort Exchange :=
  match s.aborted with
  | some abort => .error abort
  | none => .ok (s.progress.exchange none unread)

/-- A scene that is over has done what a session does whose commands are answered so. -/
theorem serve_of_isOver {f : Front} {settings : Settings} {noServer : Bool} {text : List Char}
    {events : List SessionEvent} (moved : (begin f settings noServer text).run? events = some s)
    (ended : s.isOver = true) :
    let lines := cutBehind '\n' text
    let unread := (lines.drop (Mode.top.run (lines.map some)).count).map Utf8.encode
    Session.serve (replaying (s.progress.state.map Prod.snd)) f.json [] (Utf8.encode text) =
      (s.outcome unread, s.progress.state) := by
  intro lines unread
  have follows := follows_run (follows_start f _ _) moved []
  have front : s.front = f := front_run moved
  rw [List.append_nil, front] at follows
  have nothing : s.turns = [] ∨ s.aborted.isSome := by
    simpa [isOver] using (Bool.and_eq_true_iff.1 ended).2
  rw [serve_encode, Reading.perform, follows, outcome]
  cases aborted : s.aborted with
  | some abort => rfl
  | none =>
    have done : s.turns = [] := nothing.resolve_right (by simp [aborted])
    simp only [done, Progress.play, Mode.fault_run_map_some, Option.map_none]
    rw [← List.map_drop]

end SessionScene

end InspectionHost
