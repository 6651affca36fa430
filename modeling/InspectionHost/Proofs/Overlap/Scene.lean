import InspectionHost.DiagnosticChannel
import InspectionHost.Proofs.Call.Report

/-!
# Calls that overlap

Several calls go on at a time, made through clones of one executor. They share the system with its
clock and its table of processes, the tokens, and a channel of diagnostics. Each call has phases,
limits and a reader of its output for itself. It is launched in its first turn, and then the number
of the next process is its own if the system starts the client.

The steps of all calls, the ends of the clients and of their readers, the cancellations, the ticks
of the clock and the receptions of diagnostics come in any order. Nothing in a scene says that a
call touches its own process only: a process is an entry of the common table, found by its number.
That no two calls have the same number is the invariant.

## Main definitions

* `Asked` : what one of several callers asks for.
* `OverlapScene`, `OverlapEvent` : calls with all that they share, and what can happen.
* `OverlapScene.apply`, `OverlapScene.run` : the scene behind an event, and behind events.
* `OverlapScene.Owned` : each process belongs to one call.

## Main results

* `OverlapScene.processes_turn` : a turn of a call leaves the processes of the others as they are.
* `OverlapScene.Owned.apply`, `OverlapScene.owned_run` : the invariant holds.
* `OverlapScene.Owned.goesOn_run` : a call keeps its process.
-/

namespace InspectionHost

/-! ### Callers -/

/-- What one of several callers asks for, and how the system answers its launch. -/
structure Asked where
  command : Command
  /-- The token that can cancel the call, which may be that of other calls too. -/
  token : Option Nat
  /-- The handle by which the call reaches the channel. -/
  handle : SinkHandle
  answer : LaunchAnswer

/-- What is asked for through an executor of a client, whose sink is a channel. -/
def Asked.request (client : Client) (a : Asked) : CallRequest :=
  ⟨client, a.command, .channel, a.token⟩

/-- One of several calls, with what is its own. -/
structure Party where
  answer : LaunchAnswer
  handle : SinkHandle
  call : ActiveCall
  /-- What the reader of the output has sent. -/
  capture : Capture
  record : CallRecord

namespace Party

/-- A call that goes on without a launch owns what it owned. -/
structure OwnsAs (c d : Party) : Prop where
  process : c.call.process = d.call.process
  launching_iff : c.call.phase = .launching ↔ d.call.phase = .launching
  answer : c.answer = d.answer

/-- A call that goes on keeps its process and what it asks for. -/
structure GoesOn (c d : Party) : Prop where
  process : ∀ p, c.call.process = some p → d.call.process = some p
  request : d.call.toCallRequest = c.call.toCallRequest

theorem GoesOn.refl (c : Party) : c.GoesOn c :=
  ⟨fun _ own => own, rfl⟩

theorem GoesOn.trans {c d e : Party} (first : c.GoesOn d) (second : d.GoesOn e) : c.GoesOn e :=
  ⟨fun p own => second.process p (first.process p own), second.request.trans first.request⟩

end Party

/-- Several calls with all that they share. -/
structure OverlapScene (n : Nat) where
  parties : Fin n → Party
  /-- The processes of all clients in the order of their launches. -/
  processes : List ClientProcess
  /-- The tokens that are cancelled. -/
  cancelled : List Nat
  /-- The reading of the clock. -/
  now : Nat
  channel : DiagnosticChannel
  /-- What has been received from the channel, in order. -/
  received : List Diagnostic

/-- An event of a scene. -/
inductive OverlapEvent (n : Nat) where
  /-- The process of a number ends. -/
  | exits (process : Nat) (status : ExitStatus)
  /-- The reader of the output for a call comes to its end. -/
  | captures (call : Fin n) (capture : Capture)
  /-- Somebody cancels a token. -/
  | cancels (token : Nat)
  /-- Time passes. -/
  | passes (nanos : Nat)
  /-- A call takes a step. -/
  | turn (call : Fin n) (fault : Option TurnFault)
  /-- Somebody receives from the channel. -/
  | receives

namespace OverlapScene

variable {n : Nat}

/-- Calls that somebody asks for, through clones of one executor. -/
def start (client : Client) (asked : Fin n → Asked) : OverlapScene n where
  parties := fun i =>
    ⟨(asked i).answer, (asked i).handle, .new ((asked i).request client), .pending, .blank⟩
  processes := []
  cancelled := []
  now := 0
  channel := .new
  received := []

/-- The process of a call, if it was started. -/
def process? (s : OverlapScene n) (c : Party) : Option ClientProcess :=
  c.call.process.bind (s.processes[·]?)

/-- Whether the token of a call is cancelled, if it has one. -/
def isCancelled (s : OverlapScene n) (c : Party) : Bool :=
  c.call.token.any s.cancelled.contains

/-- What can be seen in a turn of a call. -/
def glance (s : OverlapScene n) (c : Party) (fault : Option TurnFault) : Glance where
  exit := match fault, (s.process? c).bind ClientProcess.status? with
    | some (.wait error), _ => .failed error
    | _, some status => .ended status
    | _, none => .pending
  capture := c.capture
  cancelled := s.isCancelled c
  now := s.now

/-- The scene where one of the calls has gone on. -/
def withParty (s : OverlapScene n) (i : Fin n) (c : Party) : OverlapScene n :=
  { s with parties := Function.update s.parties i c }

/-- The client of a call is launched. Its process is the next one of the table. -/
def launch (s : OverlapScene n) (i : Fin n) : OverlapScene n :=
  let c := s.parties i
  { s.withParty i { c with
      call := c.call.launched (c.answer.result c.call.toCallRequest)
        (if c.answer.runs then some s.processes.length else none) s.now
      record := { c.record with
        launchedAt := some s.now
        launches := c.record.launches + if c.answer.runs then 1 else 0 } } with
    processes := s.processes ++ if c.answer.runs then [.running] else [] }

/-- A call takes a step of its phase. -/
def step (s : OverlapScene n) (i : Fin n) (fault : Option TurnFault) : OverlapScene n :=
  let c := s.parties i
  let g := s.glance c fault
  { s.withParty i { c with
      call := c.call.advance g
      record := c.record.after c.call.phase g } with
    processes := match c.call.process with
      | some p => s.processes.modify p (·.after c.call.phase g (fault == some .kill))
      | none => s.processes }

/-- A call is over or aborted, and its diagnostic goes into the channel, if it has one. -/
def conclude (s : OverlapScene n) (i : Fin n) : OverlapScene n :=
  let c := s.parties i
  { s.withParty i { c with call := c.call.conclude.2 } with
    channel := c.call.conclude.1.foldl (fun ch d => ch.report d c.handle) s.channel }

/-- A turn of a call. -/
def turn (s : OverlapScene n) (i : Fin n) (fault : Option TurnFault) : OverlapScene n :=
  match (s.parties i).call.phase with
  | .launching => s.launch i
  | .finished _ | .aborted _ => s.conclude i
  | _ => s.step i fault

/-- The reader of an output sends what it has, if there is one that has not sent before. -/
def capture (s : OverlapScene n) (i : Fin n) (capture : Capture) : OverlapScene n :=
  let c := s.parties i
  s.withParty i { c with
    capture := if c.call.process.isSome && c.capture == .pending then capture else c.capture }

/-- Somebody receives a diagnostic, if one waits. -/
def receive (s : OverlapScene n) : OverlapScene n :=
  match s.channel.tryReceive with
  | (.diagnostic d, ch) => { s with channel := ch, received := s.received ++ [d] }
  | (_, ch) => { s with channel := ch }

/-- The scene behind an event. -/
def apply (s : OverlapScene n) : OverlapEvent n → OverlapScene n
  | .exits p status => { s with processes := s.processes.modify p (·.exit status) }
  | .captures i capture => s.capture i capture
  | .cancels token => { s with cancelled := token :: s.cancelled }
  | .passes nanos => { s with now := s.now + nanos }
  | .turn i fault => s.turn i fault
  | .receives => s.receive

/-- The scene behind events. -/
def run (s : OverlapScene n) (events : List (OverlapEvent n)) : OverlapScene n :=
  events.foldl apply s

@[simp] theorem run_nil (s : OverlapScene n) : s.run [] = s :=
  rfl

@[simp] theorem run_cons (s : OverlapScene n) (e : OverlapEvent n)
    (events : List (OverlapEvent n)) : s.run (e :: events) = (s.apply e).run events :=
  rfl

variable {s : OverlapScene n} {i j : Fin n} {fault : Option TurnFault}

/-! ### What a turn changes -/

@[simp] theorem parties_withParty_self (c : Party) : (s.withParty i c).parties i = c :=
  Function.update_self ..

theorem parties_withParty_of_ne (other : j ≠ i) (c : Party) :
    (s.withParty i c).parties j = s.parties j :=
  Function.update_of_ne other ..

theorem parties_turn_of_ne (other : j ≠ i) :
    (s.turn i fault).parties j = s.parties j := by
  unfold turn
  split <;> exact parties_withParty_of_ne other _

/-- A turn of a call leaves the processes of the others as they are. -/
theorem processes_turn {p : Nat} (there : p < s.processes.length)
    (other : (s.parties i).call.process ≠ some p) :
    (s.turn i fault).processes[p]? = s.processes[p]? := by
  unfold turn
  split
  · exact List.getElem?_append_left there
  · rfl
  · rfl
  · simp only [step]
    split
    · next q own =>
      have ne : q ≠ p := by
        rintro rfl
        exact other own
      rw [List.getElem?_modify_ne _ _ ne]
    · rfl

/-! ### Each process belongs to one call -/

/-- Each process belongs to one call. The calls that have one are those that have launched a client
which the system has started. -/
structure Owned (s : OverlapScene n) : Prop where
  /-- The process of a call is in the table. -/
  there : ∀ i p, (s.parties i).call.process = some p → p < s.processes.length
  /-- It is that of no other call. -/
  unique : ∀ i j p, (s.parties i).call.process = some p →
    (s.parties j).call.process = some p → i = j
  /-- No process is without a call. -/
  exists_owner : ∀ p < s.processes.length, ∃ i, (s.parties i).call.process = some p
  started : ∀ i, (s.parties i).call.process.isSome = true ↔
    (s.parties i).call.phase ≠ .launching ∧ (s.parties i).answer.runs = true

variable {t : OverlapScene n}

theorem owned_start (client : Client) (asked : Fin n → Asked) : (start client asked).Owned where
  there := nofun
  unique := nofun
  exists_owner := nofun
  started _ := iff_of_false Bool.false_ne_true fun h => h.1 rfl

theorem Owned.frame (owned : s.Owned) (same : ∀ j, (t.parties j).OwnsAs (s.parties j))
    (length : t.processes.length = s.processes.length) : t.Owned where
  there j p own := length ▸ owned.there j p ((same j).process ▸ own)
  unique j k p own own' :=
    owned.unique j k p ((same j).process ▸ own) ((same k).process ▸ own')
  exists_owner p there := by
    obtain ⟨j, own⟩ := owned.exists_owner p (length ▸ there)
    exact ⟨j, (same j).process.trans own⟩
  started j := by
    rw [(same j).process, (same j).answer, ne_eq, (same j).launching_iff]
    exact owned.started j

/-- Who owns what does not change where one call goes on without a launch. -/
theorem Owned.frame_withParty {c : Party} (owned : s.Owned)
    (parties : t.parties = (s.withParty i c).parties) (same : c.OwnsAs (s.parties i))
    (length : t.processes.length = s.processes.length) : t.Owned := by
  refine owned.frame (fun j => ?_) length
  rw [parties]
  by_cases h : j = i
  · rw [h, parties_withParty_self]
    exact same
  · rw [parties_withParty_of_ne h]
    exact ⟨rfl, Iff.rfl, rfl⟩

theorem Owned.process_of_launching (owned : s.Owned)
    (fresh : (s.parties i).call.phase = .launching) : (s.parties i).call.process = none := by
  by_contra some
  exact ((owned.started i).1 (Option.isSome_iff_ne_none.2 some)).1 fresh

/-- The process of a launch is a new one. -/
theorem Owned.launch (owned : s.Owned) (fresh : (s.parties i).call.phase = .launching) :
    (s.launch i).Owned := by
  have none := owned.process_of_launching fresh
  have other {j : Fin n} (h : j ≠ i) : (s.launch i).parties j = s.parties j :=
    parties_withParty_of_ne h _
  have process : ((s.launch i).parties i).call.process =
      if (s.parties i).answer.runs then some s.processes.length else .none := by
    simp [OverlapScene.launch, ActiveCall.launched]
  have length : (s.launch i).processes.length =
      s.processes.length + if (s.parties i).answer.runs then 1 else 0 := by
    cases runs : (s.parties i).answer.runs <;> simp [OverlapScene.launch, runs]
  -- A call has a number because it is that of the process just started, or it has had it before.
  have own_iff (j : Fin n) (p : Nat) : ((s.launch i).parties j).call.process = some p ↔
      (j = i ∧ (s.parties i).answer.runs = true ∧ p = s.processes.length) ∨
        (s.parties j).call.process = some p := by
    by_cases h : j = i
    · rw [h, process, none]
      cases (s.parties i).answer.runs <;> simp [@eq_comm _ p]
    · simp [other h, h]
  refine ⟨fun j p own => ?_, fun j k p own own' => ?_, fun p there => ?_, fun j => ?_⟩
  · rcases (own_iff j p).1 own with ⟨-, runs, rfl⟩ | old
    · rw [length, if_pos runs]
      exact Nat.lt_succ_self _
    · exact length ▸ Nat.lt_add_right _ (owned.there j p old)
  · rcases (own_iff j p).1 own with ⟨rfl, -, rfl⟩ | old <;>
      rcases (own_iff k _).1 own' with ⟨rfl, -, new⟩ | old'
    · rfl
    · exact absurd (owned.there k _ old') (Nat.lt_irrefl _)
    · exact absurd (new ▸ owned.there j _ old) (Nat.lt_irrefl _)
    · exact owned.unique j k p old old'
  · by_cases before : p < s.processes.length
    · obtain ⟨j, own⟩ := owned.exists_owner p before
      exact ⟨j, (own_iff j p).2 (.inr own)⟩
    · cases runs : (s.parties i).answer.runs with
      | false => exact absurd there (by simpa [length, runs] using before)
      | true =>
        rw [length, if_pos runs] at there
        exact ⟨i, (own_iff i p).2 (.inl ⟨rfl, runs, by omega⟩)⟩
  · by_cases h : j = i
    · have phase : ((s.launch i).parties i).call.phase ≠ .launching := by
        simp only [OverlapScene.launch, parties_withParty_self, ActiveCall.launched]
        exact CallPhase.ofLaunch_ne_launching _ _ _
      have answer : ((s.launch i).parties i).answer = (s.parties i).answer := by
        simp [OverlapScene.launch]
      rw [h, process, answer]
      cases (s.parties i).answer.runs <;> simp [phase]
    · rw [other h]
      exact owned.started j

theorem Owned.conclude (owned : s.Owned) (i : Fin n) : (s.conclude i).Owned := by
  refine owned.frame_withParty rfl ⟨?_, ?_, rfl⟩ rfl
  · exact (s.parties i).call.process_conclude
  · rw [(s.parties i).call.phase_conclude]

theorem Owned.turn (owned : s.Owned) (i : Fin n) (fault : Option TurnFault) :
    (s.turn i fault).Owned := by
  unfold OverlapScene.turn
  split
  · next fresh => exact owned.launch fresh
  · exact owned.conclude i
  · exact owned.conclude i
  · next unlaunched _ _ =>
    refine owned.frame_withParty rfl ⟨rfl, ?_, rfl⟩ ?_
    · exact iff_of_false (CallPhase.step_ne_launching unlaunched _ _) unlaunched
    · simp only [step]
      split
      · exact List.length_modify ..
      · rfl

/-- Each process belongs to one call behind every event. -/
theorem Owned.apply (owned : s.Owned) (e : OverlapEvent n) : (s.apply e).Owned := by
  have still (j : Fin n) : (s.parties j).OwnsAs (s.parties j) := ⟨rfl, Iff.rfl, rfl⟩
  cases e with
  | exits p status => exact owned.frame still (List.length_modify ..)
  | captures i capture => exact owned.frame_withParty rfl ⟨rfl, Iff.rfl, rfl⟩ rfl
  | cancels token | passes nanos => exact owned.frame still rfl
  | turn i fault => exact owned.turn i fault
  | receives =>
    simp only [OverlapScene.apply, receive]
    split <;> exact owned.frame still rfl

/-- Each process belongs to one call behind events. -/
theorem owned_run (owned : s.Owned) (events : List (OverlapEvent n)) : (s.run events).Owned := by
  induction events generalizing s with
  | nil => exact owned
  | cons e events ih => exact ih (owned.apply e)

/-! ### What a call keeps -/

/-- A call that goes on keeps its process and what it asks for. -/
theorem Owned.goesOn_apply (owned : s.Owned) (e : OverlapEvent n) (i : Fin n) :
    (s.parties i).GoesOn ((s.apply e).parties i) := by
  have still : (s.parties i).GoesOn (s.parties i) := .refl _
  have concluded : (s.parties i).GoesOn ((s.conclude i).parties i) := by
    rw [OverlapScene.conclude, parties_withParty_self]
    exact ⟨fun p own => by rwa [ActiveCall.process_conclude],
      ActiveCall.toCallRequest_conclude _⟩
  cases e with
  | captures j capture =>
    by_cases h : i = j
    · rw [OverlapScene.apply, OverlapScene.capture, ← h, parties_withParty_self]
      exact ⟨fun _ own => own, rfl⟩
    · rwa [OverlapScene.apply, OverlapScene.capture, parties_withParty_of_ne h]
  | turn j fault =>
    by_cases h : i = j
    · subst h
      simp only [OverlapScene.apply, OverlapScene.turn]
      split
      · next fresh =>
        rw [OverlapScene.launch, parties_withParty_self]
        exact ⟨fun p own => absurd own (by simp [owned.process_of_launching fresh]), rfl⟩
      · exact concluded
      · exact concluded
      · rw [step, parties_withParty_self]
        exact ⟨fun _ own => own, rfl⟩
    · rwa [OverlapScene.apply, parties_turn_of_ne h]
  | receives =>
    simp only [OverlapScene.apply, receive]
    split <;> exact still
  | exits p status | cancels token | passes nanos => exact still

/-- A call keeps its process and what it asks for behind events. -/
theorem Owned.goesOn_run (owned : s.Owned) (events : List (OverlapEvent n)) (i : Fin n) :
    (s.parties i).GoesOn ((s.run events).parties i) := by
  induction events generalizing s with
  | nil => exact .refl _
  | cons e events ih => exact (owned.goesOn_apply e i).trans (ih (owned.apply e))

end OverlapScene

end InspectionHost
