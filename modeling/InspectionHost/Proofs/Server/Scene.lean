import InspectionHost.Host.Basic
import Mathlib.Data.Fintype.Basic

/-!
# Observers of a server and the thread of its supervisor

The thread of a supervisor looks the server up, launches it, waits for its end, reports, sends the
end of the session and goes away. Meanwhile any number of observers ask the handle. A question is
three steps: it reads the cell of the handle; when the cell is empty it receives from the mailbox;
and what it has received it settles in the cell. The steps of the thread and of all observers come
in any order, and a step that cannot be made at the moment is a step that is waited for.

## Main definitions

* `SessionEnd` : how a session comes to its end.
* `ServerThread` : where the thread stands.
* `Question`, `Answer` : what a handle is asked, and what it answers.
* `ServerScene` : the supervisor with its handle, its thread, the observers and what they are told.
* `ServerScene.step?`, `ServerScene.run?` : the scene behind an event, and behind events.

## Main results

* `SessionEnd.reported_eq` : a session is reported, and then its end is known.
* `ServerScene.ask?_eq_some` and its like : when a step can be made, and what it does.
* `ServerScene.run?_question` : a question that nothing comes between.
-/

namespace InspectionHost

/-! ### The end of a session -/

/-- How a session comes to its end. -/
inductive SessionEnd where
  /-- The server is not started. -/
  | failed (failure : Failure)
  /-- The server has ended. -/
  | ended (status : ExitStatus)
  /-- The server was started, and the system cannot tell how it ended. -/
  | unseen (error : IoError)
  deriving DecidableEq, Repr

namespace SessionEnd

/-- What the thread does with the end of a session: it reports, and then it has the exit, unless
the sink aborts it. -/
def reported (s : Supervisor) : SessionEnd → Reported ServerExit
  | failed failure => s.concludeFailure failure
  | ended status => s.concludeExit status
  | unseen error => s.concludeUnseen error

/-- The diagnostic of the end of a session. -/
def diagnostic? (program : String) : SessionEnd → Option Diagnostic
  | failed failure => some ⟨.serverLaunchFailed, failure.reason⟩
  | ended status => Supervisor.exitDiagnostic? program status
  | unseen error =>
    some ⟨.serverExited, "Failed to wait for '" ++ program ++ "': " ++ error.message⟩

/-- The exit of a session. -/
def exit (program : String) : SessionEnd → ServerExit
  | failed failure => .launchFailed failure.reason
  | ended status => .exited (status.code?.map Int.ofNat)
  | unseen error => .waitFailed ("Failed to wait for '" ++ program ++ "': " ++ error.message)

/-- The diagnostic goes to the sink first, and the exit is known if the sink takes it. -/
theorem reported_eq (s : Supervisor) (e : SessionEnd) :
    e.reported s = (do s.sink.reportAll (e.diagnostic? s.program); return e.exit s.program) := by
  cases e <;> rfl

/-- The exit that a session is reported with is its own. -/
theorem eq_exit_of_reported {s : Supervisor} {e : SessionEnd} {exit : ServerExit}
    (h : (e.reported s).result = .ok exit) : exit = e.exit s.program := by
  rw [reported_eq] at h
  cases hd : e.diagnostic? s.program with
  | none =>
    rw [hd] at h
    exact (Except.ok.inj h).symm
  | some d =>
    rw [hd] at h
    cases hsink : s.sink with
    | channel | log =>
      rw [hsink] at h
      exact (Except.ok.inj h).symm
    | refusing =>
      rw [hsink] at h
      contradiction

theorem toOption_reported_eq_none_iff {s : Supervisor} {e : SessionEnd} :
    (e.reported s).result.toOption = none ↔
      s.sink = .refusing ∧ (e.diagnostic? s.program).isSome := by
  rw [reported_eq]
  cases hd : e.diagnostic? s.program with
  | none => exact iff_of_false nofun (by simp)
  | some d =>
    cases hsink : s.sink with
    | channel | log => exact iff_of_false nofun (by simp)
    | refusing => exact iff_of_true rfl ⟨rfl, rfl⟩

/-- A session whose exit is known is not taken for lost. -/
theorem exit_ne_lost (program : String) (e : SessionEnd) : e.exit program ≠ .lost := by
  cases e with
  | failed failure => exact nofun
  | ended status => exact nofun
  | unseen error =>
    intro h
    have hreason := congrArg String.toList (ServerExit.waitFailed.inj h)
    rw [String.toList_append, String.toList_append, String.toList_append] at hreason
    -- The two reasons begin with different letters.
    exact absurd (congrArg List.head? hreason) (by simp)

end SessionEnd

/-- Where the thread of a supervisor stands. -/
inductive ServerThread where
  /-- It looks the program up. -/
  | resolving
  /-- It launches the program. -/
  | launching (path : String)
  /-- It waits for the end of the server. -/
  | watching
  /-- The session has come to its end, which is to be reported. -/
  | reporting (session : SessionEnd)
  /-- The end of the session is reported and is to be sent. -/
  | sending (session : SessionEnd)
  /-- The end of the session is sent, or the sink has aborted the thread. -/
  | closing (session : SessionEnd)
  /-- The thread is no more. -/
  | gone (session : SessionEnd)
  deriving DecidableEq, Repr

/-! ### Observers -/

/-- What a handle is asked. -/
inductive Question where
  | tryExit
  | state
  | isRunning
  | wait
  | waitTimeout
  deriving DecidableEq, Repr

/-- What a handle answers. -/
inductive Answer where
  | exit (exit : Option ServerExit)
  | state (state : ServerState)
  | running (running : Bool)
  deriving DecidableEq, Repr

namespace Question

/-- The answer to a question by somebody who knows the exit, or knows of none. -/
def answer : Question → Option ServerExit → Answer
  | tryExit, exit | wait, exit | waitTimeout, exit => .exit exit
  | state, exit => .state (if exit.isSome then .exited else .running)
  | isRunning, exit => .running exit.isNone

/-- Whether a question waits for the mailbox, whose time may have expired. -/
def waits (expired : Bool) : Question → Bool
  | wait => true
  | waitTimeout => !expired
  | tryExit | state | isRunning => false

end Question

/-- Where an observer stands. -/
inductive Observer where
  | idle
  /-- The cell was empty. -/
  | receiving (question : Question)
  /-- Something has come out of the mailbox that is to be settled. -/
  | settling (question : Question) (exit : ServerExit)
  deriving DecidableEq, Repr

/-- Whether something is to be settled. -/
def Observer.isSettling : Observer → Bool
  | settling _ _ => true
  | idle | receiving _ => false

/-- What an observer was told. -/
structure Reply (n : Nat) where
  observer : Fin n
  question : Question
  answer : Answer
  deriving DecidableEq, Repr

/-- A reply is that of somebody who knows the exit, or knows of none. -/
def Reply.Tells {n : Nat} (r : Reply n) (exit : Option ServerExit) : Prop :=
  r.answer = r.question.answer exit

theorem Reply.Tells.ne {n : Nat} {r : Reply n} {exit : ServerExit} (told : r.Tells (some exit)) :
    ¬ r.Tells none := by
  intro none_
  have h : r.question.answer (some exit) = r.question.answer none := told.symm.trans none_
  cases hq : r.question <;> simp [hq, Question.answer] at h

/-! ### The scene -/

/-- The handle when an exit is in its mailbox. -/
def ServerHandle.deliver (h : ServerHandle) (exit : ServerExit) : ServerHandle :=
  { h with mailbox := h.mailbox.send exit }

/-- The handle when the sender of its mailbox is gone. -/
def ServerHandle.close (h : ServerHandle) : ServerHandle :=
  { h with mailbox := h.mailbox.close }

/-- A supervisor that has started its server, its thread, and some observers. -/
structure ServerScene (n : Nat) where
  /-- The supervisor. It has no handle any more when that is dropped. -/
  supervisor : Supervisor
  thread : ServerThread
  /-- What the thread has reported. -/
  reports : List Diagnostic
  observers : Fin n → Observer
  /-- What the observers were told, in order. -/
  told : List (Reply n)

/-- An event of a scene. -/
inductive ServerEvent (n : Nat) where
  /-- The program is looked up. -/
  | resolve (path : Option String)
  /-- The program is launched, as a process. -/
  | spawn (launched : Except IoError Nat)
  /-- The server ends, or its end cannot be seen. -/
  | awaited (seen : Except IoError ExitStatus)
  /-- The thread reports. -/
  | report
  /-- The thread sends the exit. -/
  | send
  /-- The thread goes away. -/
  | finish
  /-- An observer asks, and reads the cell. -/
  | ask (observer : Fin n) (question : Question)
  /-- An observer receives from the mailbox. Its time may have expired. -/
  | receive (observer : Fin n) (expired : Bool)
  /-- An observer settles what it has received. -/
  | settle (observer : Fin n)
  /-- The handle is dropped. -/
  | drop

/-- Whether an observer receives. -/
def ServerEvent.isReceive {n : Nat} : ServerEvent n → Bool
  | receive _ _ => true
  | _ => false

namespace ServerScene

variable {n : Nat}

/-- A supervisor that has just started its server, which nobody has asked about. -/
def start (program : String) (directory : Option String) (sink : Sink) (n : Nat) :
    ServerScene n where
  supervisor :=
    { Supervisor.new program directory sink with handle := some .new, supervision := .launching }
  thread := .resolving
  reports := []
  observers := fun _ => .idle
  told := []

/-- What comes of the end of a session: the exit, unless the sink aborts the thread. -/
def result (s : ServerScene n) (session : SessionEnd) : Except Abort ServerExit :=
  (session.reported s.supervisor).result

/-- The exit that was sent, if one was. -/
def sent? (s : ServerScene n) : Option ServerExit :=
  match s.thread with
  | .closing session | .gone session => (s.result session).toOption
  | _ => none

/-- Whether the thread is no more. -/
def isGone (s : ServerScene n) : Bool :=
  match s.thread with
  | .gone _ => true
  | _ => false

/-- The scene with a handle. -/
def withHandle (s : ServerScene n) (h : ServerHandle) : ServerScene n :=
  { s with supervisor := { s.supervisor with handle := some h } }

/-- An observer goes on. -/
def move (s : ServerScene n) (i : Fin n) (o : Observer) : ServerScene n :=
  { s with observers := Function.update s.observers i o }

/-- An observer is told what is known of the exit. -/
def tell (s : ServerScene n) (i : Fin n) (q : Question) (exit : Option ServerExit) :
    ServerScene n :=
  { s.move i .idle with told := s.told ++ [⟨i, q, q.answer exit⟩] }

/-- The thread looks the program up. -/
def resolve? (s : ServerScene n) (path : Option String) : Option (ServerScene n) :=
  match s.thread with
  | .resolving =>
    some { s with
      thread := match path with
        | some path => .launching path
        | none => .reporting (.failed (.notFound s.supervisor.program)) }
  | _ => none

/-- The thread launches the program. -/
def spawn? (s : ServerScene n) (launched : Except IoError Nat) : Option (ServerScene n) :=
  match s.thread with
  | .launching _ =>
    some (match launched with
      | .ok process =>
        { s with
          thread := .watching
          supervisor := { s.supervisor with supervision := .watching process } }
      | .error error =>
        { s with thread := .reporting (.failed (.launch s.supervisor.program error)) })
  | _ => none

/-- The thread waits for the end of the server. -/
def awaited? (s : ServerScene n) (seen : Except IoError ExitStatus) : Option (ServerScene n) :=
  match s.thread with
  | .watching =>
    some { s with
      thread := .reporting (match seen with
        | .ok status => .ended status
        | .error error => .unseen error) }
  | _ => none

/-- The thread reports. A sink that refuses aborts the thread. -/
def report? (s : ServerScene n) : Option (ServerScene n) :=
  match s.thread with
  | .reporting session =>
    some { s with
      thread := match s.result session with
        | .ok _ => .sending session
        | .error _ => .closing session
      reports := s.reports ++ (session.reported s.supervisor).diagnostics }
  | _ => none

/-- The thread sends the exit. A mailbox holds one message, and a thread whose message finds no
room waits; when there is no handle any more, nobody receives the message. -/
def send? (s : ServerScene n) : Option (ServerScene n) :=
  match s.thread with
  | .sending session =>
    match s.result session with
    | .ok exit =>
      if ∀ h ∈ s.supervisor.handle, h.mailbox.message = none then
        some { s with
          thread := .closing session
          supervisor := { s.supervisor with handle := s.supervisor.handle.map (·.deliver exit) } }
      else none
    | .error _ => none
  | _ => none

/-- The thread goes away, and its end of the mailbox with it. -/
def finish? (s : ServerScene n) : Option (ServerScene n) :=
  match s.thread with
  | .closing session =>
    some { s with
      thread := .gone session
      supervisor := { s.supervisor with
        supervision := .finished, handle := s.supervisor.handle.map ServerHandle.close } }
  | _ => none

/-- An observer asks. It is told at once what stands in the cell. -/
def ask? (s : ServerScene n) (i : Fin n) (q : Question) : Option (ServerScene n) :=
  match s.observers i, s.supervisor.handle with
  | .idle, some h =>
    match h.cell with
    | some exit => some (s.tell i q (some exit))
    | none => some (s.move i (.receiving q))
  | _, _ => none

/-- An observer receives from the mailbox. When there is nothing, it waits or is told so. -/
def receive? (s : ServerScene n) (i : Fin n) (expired : Bool) : Option (ServerScene n) :=
  match s.observers i, s.supervisor.handle with
  | .receiving q, some h =>
    match h.mailbox.receive with
    | (.message exit, mailbox) =>
      some ((s.withHandle { h with mailbox }).move i (.settling q exit))
    | (.closed, mailbox) =>
      some ((s.withHandle { h with mailbox }).move i (.settling q .lost))
    | (.nothing, _) => if q.waits expired then none else some (s.tell i q none)
  | _, _ => none

/-- An observer settles what it has received, and is told what stands in the cell then. -/
def settle? (s : ServerScene n) (i : Fin n) : Option (ServerScene n) :=
  match s.observers i, s.supervisor.handle with
  | .settling q exit, some h =>
    let (exit, h) := h.settle exit
    some ((s.withHandle h).tell i q (some exit))
  | _, _ => none

/-- The handle is dropped when nobody is asking it. -/
def drop? (s : ServerScene n) : Option (ServerScene n) :=
  if s.supervisor.handle.isSome ∧ ∀ i, s.observers i = .idle then
    some { s with supervisor := { s.supervisor with handle := none } }
  else none

/-- The scene behind an event, if it can happen. -/
def step? (s : ServerScene n) : ServerEvent n → Option (ServerScene n)
  | .resolve path => s.resolve? path
  | .spawn launched => s.spawn? launched
  | .awaited seen => s.awaited? seen
  | .report => s.report?
  | .send => s.send?
  | .finish => s.finish?
  | .ask i q => s.ask? i q
  | .receive i expired => s.receive? i expired
  | .settle i => s.settle? i
  | .drop => s.drop?

/-- The scene behind events, if they can happen one after the other. -/
def run? (s : ServerScene n) (events : List (ServerEvent n)) : Option (ServerScene n) :=
  events.foldlM step? s

variable {s t : ServerScene n} {i : Fin n}

/-! ### When a step can be made -/

/-- A step of the thread that is behind neither the send nor the end of the thread. -/
structure Quiet (s t : ServerScene n) : Prop where
  program : t.supervisor.program = s.supervisor.program
  sink : t.supervisor.sink = s.supervisor.sink
  handle : t.supervisor.handle = s.supervisor.handle
  observers : t.observers = s.observers
  told : t.told = s.told
  unsent : s.sent? = none ∧ t.sent? = none
  present : s.isGone = false ∧ t.isGone = false
  /-- Only an exit is sent. -/
  ready : ∀ session, t.thread = .sending session → ∃ exit, t.result session = .ok exit

theorem quiet_resolve {path : Option String} (moved : s.resolve? path = some t) : s.Quiet t := by
  cases hthread : s.thread with
  | resolving =>
    obtain rfl : _ = t := by simpa [resolve?, hthread] using moved
    cases path <;>
      exact ⟨rfl, rfl, rfl, rfl, rfl, by simp [sent?, hthread], by simp [isGone, hthread], nofun⟩
  | _ => simp [resolve?, hthread] at moved

theorem quiet_spawn {launched : Except IoError Nat} (moved : s.spawn? launched = some t) :
    s.Quiet t := by
  cases hthread : s.thread with
  | launching path =>
    obtain rfl : _ = t := by simpa [spawn?, hthread] using moved
    cases launched <;>
      exact ⟨rfl, rfl, rfl, rfl, rfl, by simp [sent?, hthread], by simp [isGone, hthread], nofun⟩
  | _ => simp [spawn?, hthread] at moved

theorem quiet_awaited {seen : Except IoError ExitStatus} (moved : s.awaited? seen = some t) :
    s.Quiet t := by
  cases hthread : s.thread with
  | watching =>
    obtain rfl : _ = t := by simpa [awaited?, hthread] using moved
    exact ⟨rfl, rfl, rfl, rfl, rfl, by simp [sent?, hthread], by simp [isGone, hthread], nofun⟩
  | _ => simp [awaited?, hthread] at moved

theorem resolve?_eq_some {path : Option String} : s.resolve? path = some t ↔
    s.thread = .resolving ∧ t = { s with
      thread := match path with
        | some path => .launching path
        | none => .reporting (.failed (.notFound s.supervisor.program)) } := by
  cases hthread : s.thread <;> simp [resolve?, hthread, eq_comm (a := t)]

theorem spawn?_eq_some {launched : Except IoError Nat} : s.spawn? launched = some t ↔
    (∃ path, s.thread = .launching path) ∧ t = match launched with
      | .ok process =>
        { s with
          thread := .watching
          supervisor := { s.supervisor with supervision := .watching process } }
      | .error error =>
        { s with thread := .reporting (.failed (.launch s.supervisor.program error)) } := by
  cases hthread : s.thread <;> simp [spawn?, hthread, eq_comm (a := t)]

theorem awaited?_eq_some {seen : Except IoError ExitStatus} : s.awaited? seen = some t ↔
    s.thread = .watching ∧ t = { s with
      thread := .reporting (match seen with
        | .ok status => .ended status
        | .error error => .unseen error) } := by
  cases hthread : s.thread <;> simp [awaited?, hthread, eq_comm (a := t)]

theorem report?_eq_some : s.report? = some t ↔ ∃ session, s.thread = .reporting session ∧
    t = { s with
      thread := match s.result session with
        | .ok _ => .sending session
        | .error _ => .closing session
      reports := s.reports ++ (session.reported s.supervisor).diagnostics } := by
  cases hthread : s.thread <;> simp [report?, hthread, eq_comm (a := t)]

theorem quiet_report (moved : s.report? = some t) : s.Quiet t := by
  obtain ⟨session, hthread, rfl⟩ := report?_eq_some.1 moved
  cases hresult : s.result session with
  | ok exit =>
    refine ⟨rfl, rfl, rfl, rfl, rfl, by simp [sent?, hthread], by simp [isGone, hthread], ?_⟩
    rintro session' hsending
    obtain rfl : session = session' := by simpa using hsending
    exact ⟨exit, hresult⟩
  | error abort =>
    have hlost : (s.result session).toOption = none := by rw [hresult]; rfl
    exact ⟨rfl, rfl, rfl, rfl, rfl, ⟨by simp [sent?, hthread], hlost⟩, by simp [isGone, hthread],
      nofun⟩

/-- The exit is sent to a mailbox with room for it, or to nobody. -/
theorem send?_eq_some : s.send? = some t ↔
    ∃ session exit, s.thread = .sending session ∧ s.result session = .ok exit ∧
      (∀ h ∈ s.supervisor.handle, h.mailbox.message = none) ∧
      t = { s with
        thread := .closing session
        supervisor := { s.supervisor with
          handle := s.supervisor.handle.map (·.deliver exit) } } := by
  cases hthread : s.thread with
  | sending session =>
    cases hresult : s.result session <;> simp [send?, hthread, hresult, eq_comm (a := t)]
  | _ => simp [send?, hthread]

theorem finish?_eq_some : s.finish? = some t ↔ ∃ session, s.thread = .closing session ∧
    t = { s with
      thread := .gone session
      supervisor := { s.supervisor with
        supervision := .finished, handle := s.supervisor.handle.map ServerHandle.close } } := by
  cases hthread : s.thread <;> simp [finish?, hthread, eq_comm (a := t)]

/-- An observer that is idle asks, and is told what stands in the cell or has to receive. -/
theorem ask?_eq_some {q : Question} : s.ask? i q = some t ↔
    s.observers i = .idle ∧ ∃ h, s.supervisor.handle = some h ∧
      t = match h.cell with
        | some exit => s.tell i q (some exit)
        | none => s.move i (.receiving q) := by
  cases hi : s.observers i with
  | idle =>
    cases hhandle : s.supervisor.handle with
    | none => simp [ask?, hi, hhandle]
    | some h => cases hcell : h.cell <;> simp [ask?, hi, hhandle, hcell, eq_comm (a := t)]
  | _ => simp [ask?, hi]

theorem withHandle_self {h : ServerHandle} (handle : s.supervisor.handle = some h) :
    s.withHandle h = s := by
  obtain ⟨supervisor, thread, reports, observers, told⟩ := s
  obtain ⟨program, directory, sink, _, supervision⟩ := supervisor
  obtain rfl := handle
  rfl

/-- An observer receives the message of the mailbox, or that there will be none, or it gives up. -/
theorem receive?_eq_some {expired : Bool} : s.receive? i expired = some t ↔
    ∃ q h, s.observers i = .receiving q ∧ s.supervisor.handle = some h ∧
      ((∃ exit, h.mailbox.message = some exit ∧
        t = (s.withHandle { h with mailbox := { h.mailbox with message := none } }).move i
          (.settling q exit)) ∨
      (h.mailbox.message = none ∧ h.mailbox.sending = false ∧ t = s.move i (.settling q .lost)) ∨
      (h.mailbox.message = none ∧ h.mailbox.sending = true ∧ q.waits expired = false ∧
        t = s.tell i q none)) := by
  cases hi : s.observers i with
  | receiving q =>
    cases hhandle : s.supervisor.handle with
    | none => simp [receive?, hi, hhandle]
    | some h =>
      have hself : s.withHandle { h with mailbox := h.mailbox } = s := withHandle_self hhandle
      cases hmessage : h.mailbox.message with
      | some exit => simp [receive?, hi, hhandle, Mailbox.receive, hmessage, eq_comm (a := t)]
      | none =>
        cases hsending : h.mailbox.sending <;>
          simp [receive?, hi, hhandle, Mailbox.receive, hmessage, hsending, hself,
            eq_comm (a := t)]
  | _ => simp [receive?, hi]

theorem settle?_eq_some : s.settle? i = some t ↔
    ∃ q exit h, s.observers i = .settling q exit ∧ s.supervisor.handle = some h ∧
      t = (s.withHandle (h.settle exit).2).tell i q (some (h.settle exit).1) := by
  cases hi : s.observers i with
  | settling q exit =>
    cases hhandle : s.supervisor.handle <;> simp [settle?, hi, hhandle, eq_comm (a := t)]
  | _ => simp [settle?, hi]

theorem drop?_eq_some : s.drop? = some t ↔
    (s.supervisor.handle.isSome ∧ ∀ i, s.observers i = .idle) ∧
      t = { s with supervisor := { s.supervisor with handle := none } } := by
  simp only [drop?, Option.ite_none_right_eq_some, Option.some.injEq, eq_comm (a := t)]

/-! ### What nothing comes between -/

/-- A question that nothing comes between is answered by what is known of the exit, and leaves the
handle as a look at the exit leaves it. To wait is to ask when the exit is known. -/
theorem run?_question {h : ServerHandle} (idle : s.observers i = .idle)
    (handle : s.supervisor.handle = some h) {q : Question}
    (answered : q.waits true = true → h.tryExit.1.isSome) :
    ∃ events, s.run? events = some ((s.withHandle h.tryExit.2).tell i q h.tryExit.1) := by
  cases hcell : h.cell with
  | some exit =>
    refine ⟨[.ask i q], ?_⟩
    rw [ServerHandle.tryExit_of_cell hcell, withHandle_self handle]
    simp [run?, step?, ask?, idle, handle, hcell]
  | none =>
    rcases hreceive : h.mailbox.receive with ⟨exit | _ | _, mailbox⟩
    · refine ⟨[.ask i q, .receive i true, .settle i], ?_⟩
      simp [run?, step?, ask?, receive?, settle?, idle, handle, hcell, hreceive,
        ServerHandle.tryExit, ServerHandle.settle, withHandle, move, tell]
    · have hknown : h.tryExit = (none, { h with mailbox }) := by
        simp [ServerHandle.tryExit, hcell, hreceive]
      have hpatient : q.waits true = false := by
        by_contra hwaits
        have := answered (by simpa using hwaits)
        simp [hknown] at this
      have hmailbox : mailbox = h.mailbox := by
        cases hmessage : h.mailbox.message <;> simp_all [Mailbox.receive]
      have hself : s.withHandle { h with mailbox } = s := by
        rw [hmailbox]
        exact withHandle_self handle
      refine ⟨[.ask i q, .receive i true], ?_⟩
      rw [hknown, hself]
      simp [run?, step?, ask?, receive?, idle, handle, hcell, hreceive, hpatient, move, tell]
    · refine ⟨[.ask i q, .receive i true, .settle i], ?_⟩
      simp [run?, step?, ask?, receive?, settle?, idle, handle, hcell, hreceive,
        ServerHandle.tryExit, ServerHandle.settle, withHandle, move, tell]

end ServerScene

end InspectionHost
