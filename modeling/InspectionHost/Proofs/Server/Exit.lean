import InspectionHost.Proofs.Server.Scene

/-!
# Where the exit of a session is

The exit of a session is sent once. Then it waits in the mailbox, until an observer takes it out
and settles it in the cell. An observer that finds the mailbox empty and closed takes the exit for
lost, and settles that. Whatever is in the cell is what all observers are told, and the cell is
written once.

An observer that takes the exit for lost does no harm when the exit is in the cell already. It does
when the exit is still with another observer, who has taken it out and has not settled it. Observers
are torn if that may happen.

## Main definitions

* `ServerScene.ExitStands` : where the exit is.
* `ServerScene.Sound` : the invariant, for observers that may be torn or not.
* `ServerScene.orderly` : nobody receives while somebody has received and not settled.

## Main results

* `ServerScene.Sound.step` : the invariant holds behind every event, unless an observer receives
  while another one settles.
* `ServerScene.sound_run` : the invariant holds behind events.
-/

namespace InspectionHost.ServerScene

variable {n : Nat} {s t : ServerScene n} {h : ServerHandle} {i : Fin n}

/-! ### What an event leaves alone -/

/-- What comes of a session depends on the supervisor only through its program and its sink. -/
theorem result_congr (program : t.supervisor.program = s.supervisor.program)
    (sink : t.supervisor.sink = s.supervisor.sink) (session : SessionEnd) :
    t.result session = s.result session := by
  rw [result, result, SessionEnd.reported_eq, SessionEnd.reported_eq, program, sink]

theorem sent?_congr (program : t.supervisor.program = s.supervisor.program)
    (sink : t.supervisor.sink = s.supervisor.sink) (thread : t.thread = s.thread) :
    t.sent? = s.sent? := by
  rw [sent?, sent?, thread]
  cases s.thread with
  | closing session | gone session =>
    exact congrArg Except.toOption (result_congr program sink session)
  | _ => rfl

theorem sent?_of_reported {session : SessionEnd}
    (thread : s.thread = .closing session ∨ s.thread = .gone session) :
    s.sent? = (s.result session).toOption := by
  rcases thread with thread | thread <;> rw [sent?, thread]

theorem sent?_eq_none_iff {session : SessionEnd}
    (thread : s.thread = .closing session ∨ s.thread = .gone session) :
    s.sent? = none ↔
      s.supervisor.sink = .refusing ∧ (session.diagnostic? s.supervisor.program).isSome := by
  rw [sent?_of_reported thread]
  exact SessionEnd.toOption_reported_eq_none_iff

/-- What is sent is the exit of the session. -/
theorem eq_exit_of_sent? {session : SessionEnd}
    (thread : s.thread = .closing session ∨ s.thread = .gone session) {exit : ServerExit}
    (sent : s.sent? = some exit) : exit = session.exit s.supervisor.program := by
  rw [sent?_of_reported thread] at sent
  cases hresult : s.result session with
  | error abort =>
    rw [hresult] at sent
    contradiction
  | ok exit' =>
    rw [hresult] at sent
    obtain rfl := Option.some.inj sent
    exact SessionEnd.eq_exit_of_reported hresult

/-- What is sent does not tell that the session is lost. -/
theorem ne_lost_of_sent? {exit : ServerExit} (sent : s.sent? = some exit) : exit ≠ .lost := by
  obtain ⟨session, hthread⟩ :
      ∃ session, s.thread = .closing session ∨ s.thread = .gone session := by
    cases hthread : s.thread with
    | closing session => exact ⟨session, .inl rfl⟩
    | gone session => exact ⟨session, .inr rfl⟩
    | _ => simp [sent?, hthread] at sent
  rw [eq_exit_of_sent? hthread sent]
  exact session.exit_ne_lost s.supervisor.program

@[simp] theorem sent?_withHandle (s : ServerScene n) (h : ServerHandle) :
    (s.withHandle h).sent? = s.sent? :=
  sent?_congr rfl rfl rfl

@[simp] theorem isGone_withHandle (s : ServerScene n) (h : ServerHandle) :
    (s.withHandle h).isGone = s.isGone :=
  rfl

@[simp] theorem sent?_move (s : ServerScene n) (i : Fin n) (o : Observer) :
    (s.move i o).sent? = s.sent? :=
  rfl

@[simp] theorem isGone_move (s : ServerScene n) (i : Fin n) (o : Observer) :
    (s.move i o).isGone = s.isGone :=
  rfl

@[simp] theorem sent?_tell (s : ServerScene n) (i : Fin n) (q : Question)
    (exit : Option ServerExit) : (s.tell i q exit).sent? = s.sent? :=
  rfl

@[simp] theorem isGone_tell (s : ServerScene n) (i : Fin n) (q : Question)
    (exit : Option ServerExit) : (s.tell i q exit).isGone = s.isGone :=
  rfl

@[simp] theorem observers_tell_self (s : ServerScene n) (i : Fin n) (q : Question)
    (exit : Option ServerExit) : (s.tell i q exit).observers i = .idle :=
  Function.update_self ..

/-- Who settles behind a step of an observer is that observer, or did so before. -/
theorem settling_move {j : Fin n} {o : Observer} {q : Question} {exit : ServerExit}
    (settling : (s.move i o).observers j = .settling q exit) :
    o = .settling q exit ∨ s.observers j = .settling q exit := by
  by_cases hj : j = i
  · subst hj
    exact .inl (by simpa [move] using settling)
  · exact .inr (by simpa [move, Function.update_of_ne hj] using settling)

/-! ### The invariant -/

/-- Where the exit is, for a handle. The observers may be torn or not. -/
inductive ExitStands (torn : Prop) (s : ServerScene n) (h : ServerHandle) : Prop where
  /-- The thread has not sent it yet, if it ever will. -/
  | unsent (sent : s.sent? = none) (present : s.isGone = false) (message : h.mailbox.message = none)
      (cell : h.cell = none) (settling : ∀ i q exit, s.observers i ≠ .settling q exit)
  /-- It is in the mailbox. -/
  | waiting (exit : ServerExit) (sent : s.sent? = some exit)
      (message : h.mailbox.message = some exit) (cell : h.cell = none)
      (settling : ∀ i q exit, s.observers i ≠ .settling q exit)
  /-- An observer has taken it out. -/
  | taken (exit : ServerExit) (sent : s.sent? = some exit) (message : h.mailbox.message = none)
      (settling : ∀ i q e, s.observers i = .settling q e →
        e = exit ∨ e = .lost ∧ (h.cell = none → torn))
      (cell : ∀ e, h.cell = some e → e = exit ∨ e = .lost ∧ torn)
      (held : h.cell = none → ∃ i q, s.observers i = .settling q exit)
  /-- The thread has not sent it and never will. -/
  | lost (sent : s.sent? = none) (gone : s.isGone = true) (message : h.mailbox.message = none)
      (settling : ∀ i q e, s.observers i = .settling q e → e = .lost)
      (cell : ∀ e, h.cell = some e → e = .lost)

/-- The invariant, for the handle as it is or as it would be if it were not dropped. -/
structure Sound (torn : Prop) (s : ServerScene n) (h : ServerHandle) : Prop where
  handle : ∀ k ∈ s.supervisor.handle, k = h
  sending : h.mailbox.sending = !s.isGone
  /-- What is about to be sent is an exit. -/
  ready : ∀ session, s.thread = .sending session → ∃ exit, s.result session = .ok exit
  stands : s.ExitStands torn h
  /-- Who is told an exit is told what is in the cell. -/
  told : ∀ r ∈ s.told, r.Tells none ∨ ∃ exit, h.cell = some exit ∧ r.Tells (some exit)

variable {torn : Prop}

theorem sound_start (program : String) (directory : Option String) (sink : Sink) :
    (start program directory sink n).Sound torn .new where
  handle := by
    rintro k hk
    exact (Option.some.inj hk).symm
  sending := rfl
  ready := nofun
  stands := .unsent rfl rfl rfl rfl nofun
  told := nofun

theorem Sound.quiet (sound : s.Sound torn h) (moved : s.Quiet t) : t.Sound torn h := by
  obtain ⟨-, -, handle, observers, told, unsent, present, ready⟩ := moved
  refine ⟨by rw [handle]; exact sound.handle, ?_, ready, ?_, by rw [told]; exact sound.told⟩
  · rw [sound.sending, present.1, present.2]
  · cases sound.stands with
    | unsent sent _ message cell settling =>
      exact .unsent unsent.2 present.2 message cell (by rw [observers]; exact settling)
    | waiting exit sent | taken exit sent => simp [unsent.1] at sent
    | lost _ gone => simp [present.1] at gone

theorem Sound.handle_map (sound : s.Sound torn h) (change : ServerHandle → ServerHandle) :
    ∀ k ∈ s.supervisor.handle.map change, k = change h := by
  intro k hk
  obtain ⟨k', hk', rfl⟩ := Option.mem_map.1 hk
  rw [sound.handle k' hk']

theorem Sound.ready_congr (sound : s.Sound torn h)
    (program : t.supervisor.program = s.supervisor.program)
    (sink : t.supervisor.sink = s.supervisor.sink) (thread : t.thread = s.thread) :
    ∀ session, t.thread = .sending session → ∃ exit, t.result session = .ok exit := by
  intro session hthread
  obtain ⟨exit, hexit⟩ := sound.ready session (thread.symm.trans hthread)
  exact ⟨exit, (result_congr program sink session).trans hexit⟩

theorem Sound.of_sending (sound : s.Sound torn h) {session : SessionEnd}
    (thread : s.thread = .sending session) :
    h.mailbox.message = none ∧ h.cell = none ∧ ∀ i q exit, s.observers i ≠ .settling q exit := by
  have hsent : s.sent? = none := by simp [sent?, thread]
  have hpresent : s.isGone = false := by simp [isGone, thread]
  cases sound.stands with
  | unsent _ _ message cell settling => exact ⟨message, cell, settling⟩
  | waiting exit sent | taken exit sent => simp [hsent] at sent
  | lost _ gone => simp [hpresent] at gone

theorem Sound.send_moves (sound : s.Sound torn h) {session : SessionEnd}
    (thread : s.thread = .sending session) : (s.step? .send).isSome := by
  obtain ⟨exit, hresult⟩ := sound.ready session thread
  have hroom : ∀ k ∈ s.supervisor.handle, k.mailbox.message = none := by
    intro k hk
    rw [sound.handle k hk]
    exact (sound.of_sending thread).1
  have moved := send?_eq_some.2 ⟨session, exit, thread, hresult, hroom, rfl⟩
  exact Option.isSome_iff_exists.2 ⟨_, moved⟩

theorem Sound.send (sound : s.Sound torn h) (moved : s.send? = some t) :
    ∃ k, t.Sound torn k := by
  obtain ⟨session, exit, hthread, hresult, -, rfl⟩ := send?_eq_some.1 moved
  obtain ⟨-, hcell, hsettling⟩ := sound.of_sending hthread
  have hpresent : s.isGone = false := by simp [isGone, hthread]
  have hsending : h.mailbox.sending = true := by rw [sound.sending, hpresent, Bool.not_false]
  refine ⟨h.deliver exit, sound.handle_map _, hsending, ?_, ?_, sound.told⟩
  · intro session' hsession
    cases hsession
  refine .waiting exit ?_ rfl hcell hsettling
  calc (s.result session).toOption = (Except.ok exit : Except Abort ServerExit).toOption := by
        rw [hresult]
    _ = some exit := rfl

theorem Sound.finish (sound : s.Sound torn h) (moved : s.finish? = some t) :
    ∃ k, t.Sound torn k := by
  obtain ⟨session, hthread, rfl⟩ := finish?_eq_some.1 moved
  have hpresent : s.isGone = false := by simp [isGone, hthread]
  have hsent : s.sent? = (s.result session).toOption := by simp [sent?, hthread]
  refine ⟨h.close, sound.handle_map _, rfl, ?_, ?_, sound.told⟩
  · intro session' hsession
    cases hsession
  cases sound.stands with
  | unsent sent _ message cell settling =>
    refine .lost (hsent.symm.trans sent) rfl message ?_ ?_
    · intro i q exit hi
      exact (settling i q exit hi).elim
    · intro exit hexit
      simp [ServerHandle.close, cell] at hexit
  | waiting exit sent message cell settling =>
    exact .waiting exit (hsent.symm.trans sent) message cell settling
  | taken exit sent message settling cell held =>
    exact .taken exit (hsent.symm.trans sent) message settling cell held
  | lost _ gone => simp [hpresent] at gone

/-- An observer that is not settling goes on and does not settle. -/
theorem ExitStands.move (stands : s.ExitStands torn h) {o : Observer}
    (before : ∀ q exit, s.observers i ≠ .settling q exit) (after : ∀ q exit, o ≠ .settling q exit) :
    (s.move i o).ExitStands torn h := by
  have hback {j : Fin n} {q : Question} {exit : ServerExit}
      (hj : (s.move i o).observers j = .settling q exit) : s.observers j = .settling q exit :=
    (settling_move hj).resolve_left (after q exit)
  cases stands with
  | unsent sent present message cell settling =>
    exact .unsent sent present message cell fun j q exit hj => settling j q exit (hback hj)
  | waiting exit sent message cell settling =>
    exact .waiting exit sent message cell fun j q e hj => settling j q e (hback hj)
  | taken exit sent message settling cell held =>
    refine .taken exit sent message (fun j q e hj => settling j q e (hback hj)) cell ?_
    intro hcell
    obtain ⟨j, q, hj⟩ := held hcell
    have hne : j ≠ i := by
      rintro rfl
      exact before q exit hj
    exact ⟨j, q, by simpa [ServerScene.move, Function.update_of_ne hne] using hj⟩
  | lost sent gone message settling cell =>
    exact .lost sent gone message (fun j q e hj => settling j q e (hback hj)) cell

/-- The exit stands where it stood when neither the thread nor an observer has gone on. -/
theorem ExitStands.frame (stands : s.ExitStands torn h) (sent : t.sent? = s.sent?)
    (gone : t.isGone = s.isGone) (observers : t.observers = s.observers) :
    t.ExitStands torn h := by
  cases stands with
  | unsent none_ present message cell settling =>
    exact .unsent (sent.trans none_) (gone.trans present) message cell (by rwa [observers])
  | waiting exit some_ message cell settling =>
    exact .waiting exit (sent.trans some_) message cell (by rwa [observers])
  | taken exit some_ message settling cell held =>
    exact .taken exit (sent.trans some_) message (by rwa [observers]) cell (by rwa [observers])
  | lost none_ ended message settling cell =>
    exact .lost (sent.trans none_) (gone.trans ended) message (by rwa [observers]) cell

/-- What observers were told stays true when one more is told what is in the cell, or that nothing
is known. -/
theorem told_tell {k : ServerHandle}
    (told : ∀ r ∈ s.told, r.Tells none ∨ ∃ exit, k.cell = some exit ∧ r.Tells (some exit))
    (q : Question) {exit : Option ServerExit} (known : exit = none ∨ exit = k.cell) :
    ∀ r ∈ (s.tell i q exit).told,
      r.Tells none ∨ ∃ exit, k.cell = some exit ∧ r.Tells (some exit) := by
  intro r hr
  rcases List.mem_append.1 hr with hr | hr
  · exact told r hr
  · obtain rfl := List.mem_singleton.1 hr
    cases exit with
    | none => exact .inl rfl
    | some exit =>
      have hcell : some exit = k.cell := known.resolve_left (Option.some_ne_none exit)
      exact .inr ⟨exit, hcell.symm, rfl⟩

theorem Sound.tell (sound : s.Sound torn h)
    (before : ∀ q exit, s.observers i ≠ .settling q exit) (q : Question)
    {exit : Option ServerExit} (known : exit = none ∨ exit = h.cell) :
    (s.tell i q exit).Sound torn h := by
  have hstands : (s.move i .idle).ExitStands torn h := sound.stands.move before nofun
  exact ⟨sound.handle, sound.sending, sound.ready, hstands.frame rfl rfl rfl,
    told_tell sound.told q known⟩

theorem Sound.ask {q : Question} (sound : s.Sound torn h) (moved : s.ask? i q = some t) :
    t.Sound torn h := by
  obtain ⟨hidle, k, hk, rfl⟩ := ask?_eq_some.1 moved
  obtain rfl := sound.handle k hk
  have hbefore : ∀ q exit, s.observers i ≠ .settling q exit := by simp [hidle]
  cases hcell : k.cell with
  | some exit => exact sound.tell hbefore q (.inr hcell.symm)
  | none =>
    exact ⟨sound.handle, sound.sending, sound.ready, sound.stands.move hbefore nofun, sound.told⟩

theorem ExitStands.take (stands : s.ExitStands torn h) {exit : ServerExit}
    (message : h.mailbox.message = some exit) (q : Question) :
    (s.move i (.settling q exit)).ExitStands torn
      { h with mailbox := { h.mailbox with message := none } } := by
  cases stands with
  | unsent _ _ nothing | taken _ _ nothing | lost _ _ nothing => simp [message] at nothing
  | waiting exit' sent waits cell settling =>
    obtain rfl : exit = exit' := by simpa [message] using waits
    refine .taken exit sent rfl ?_ ?_ fun _ => ⟨i, q, by simp [ServerScene.move]⟩
    · intro j q' e hj
      rcases settling_move hj with hnew | hold
      · exact .inl (Observer.settling.inj hnew).2.symm
      · exact (settling j q' e hold).elim
    · intro e he
      simp [cell] at he

/-- An observer finds the mailbox closed. When the exit is still with somebody who has not settled
it, the observers are torn. -/
theorem ExitStands.miss (stands : s.ExitStands torn h) (message : h.mailbox.message = none)
    (gone : s.isGone = true) (before : ∀ q exit, s.observers i ≠ .settling q exit)
    (orderly : (∃ j q exit, s.observers j = .settling q exit) → torn) (q : Question) :
    (s.move i (.settling q .lost)).ExitStands torn h := by
  cases stands with
  | unsent _ present => simp [gone] at present
  | waiting _ _ waits => simp [message] at waits
  | taken exit sent _ settling cell held =>
    refine .taken exit sent message ?_ cell ?_
    · intro j q' e hj
      rcases settling_move hj with hnew | hold
      · refine .inr ⟨(Observer.settling.inj hnew).2.symm, fun hcell => ?_⟩
        obtain ⟨j', q'', hj'⟩ := held hcell
        exact orderly ⟨j', q'', exit, hj'⟩
      · exact settling j q' e hold
    · intro hcell
      obtain ⟨j, q', hj⟩ := held hcell
      have hne : j ≠ i := by
        rintro rfl
        exact before q' exit hj
      exact ⟨j, q', by simpa [ServerScene.move, Function.update_of_ne hne] using hj⟩
  | lost sent _ _ settling cell =>
    refine .lost sent gone message ?_ cell
    intro j q' e hj
    rcases settling_move hj with hnew | hold
    · exact (Observer.settling.inj hnew).2.symm
    · exact settling j q' e hold

theorem Sound.receive {expired : Bool} (sound : s.Sound torn h)
    (orderly : (∃ j q exit, s.observers j = .settling q exit) → torn)
    (moved : s.receive? i expired = some t) : ∃ k, t.Sound torn k := by
  obtain ⟨q, k, hi, hk, hmoved⟩ := receive?_eq_some.1 moved
  obtain rfl := sound.handle k hk
  have hbefore : ∀ q exit, s.observers i ≠ .settling q exit := by simp [hi]
  rcases hmoved with ⟨exit, hmessage, rfl⟩ | ⟨hmessage, hsending, rfl⟩ | ⟨-, -, -, rfl⟩
  · refine ⟨{ k with mailbox := { k.mailbox with message := none } }, ?_, sound.sending,
      sound.ready_congr rfl rfl rfl, ?_, sound.told⟩
    · intro k' hk'
      exact (Option.some.inj hk').symm
    · exact (sound.stands.take hmessage q).frame (by simp) (by simp) rfl
  · have hgone : s.isGone = true := by
      have := sound.sending
      simpa [hsending] using this
    exact ⟨k, sound.handle, sound.sending, sound.ready,
      sound.stands.miss hmessage hgone hbefore orderly q, sound.told⟩
  · exact ⟨k, sound.tell hbefore q (.inl rfl)⟩

/-- An observer settles what it has received. Unless somebody has settled before it, that is in the
cell from then on. -/
theorem ExitStands.settle (stands : s.ExitStands torn h) {q : Question} {exit : ServerExit}
    (hi : s.observers i = .settling q exit) :
    (s.move i .idle).ExitStands torn (h.settle exit).2 := by
  have hback {j : Fin n} {q' : Question} {e : ServerExit}
      (hj : (s.move i .idle).observers j = .settling q' e) : s.observers j = .settling q' e :=
    (settling_move hj).resolve_left nofun
  cases stands with
  | unsent _ _ _ _ settling | waiting _ _ _ _ settling => exact (settling i q exit hi).elim
  | taken exit' sent message settling cell _ =>
    cases hcell : h.cell with
    | some settled =>
      rw [ServerHandle.settle_of_cell hcell]
      refine .taken exit' sent message (fun j q' e hj => settling j q' e (hback hj)) cell ?_
      intro hnone
      simp [hcell] at hnone
    | none =>
      rw [ServerHandle.settle_of_empty hcell]
      refine .taken exit' sent message ?_ ?_ nofun
      · intro j q' e hj
        exact (settling j q' e (hback hj)).imp id fun lost => ⟨lost.1, nofun⟩
      · intro e he
        obtain rfl := Option.some.inj he
        exact (settling i q exit hi).imp id fun lost => ⟨lost.1, lost.2 hcell⟩
  | lost sent gone message settling cell =>
    cases hcell : h.cell with
    | some settled =>
      rw [ServerHandle.settle_of_cell hcell]
      exact .lost sent gone message (fun j q' e hj => settling j q' e (hback hj)) cell
    | none =>
      rw [ServerHandle.settle_of_empty hcell]
      refine .lost sent gone message (fun j q' e hj => settling j q' e (hback hj)) ?_
      intro e he
      obtain rfl := Option.some.inj he
      exact settling i q exit hi

theorem Sound.settle (sound : s.Sound torn h) (moved : s.settle? i = some t) :
    ∃ k, t.Sound torn k := by
  obtain ⟨q, exit, k, hi, hk, rfl⟩ := settle?_eq_some.1 moved
  obtain rfl := sound.handle k hk
  refine ⟨(k.settle exit).2, ?_, ?_, sound.ready_congr rfl rfl rfl, ?_, ?_⟩
  · intro k' hk'
    exact (Option.some.inj hk').symm
  · rw [ServerHandle.mailbox_settle]
    exact sound.sending
  · exact (sound.stands.settle hi).frame (by simp) (by simp) rfl
  · refine told_tell ?_ q (.inr (k.cell_settle exit).symm)
    intro r hr
    refine (sound.told r hr).imp id ?_
    rintro ⟨e, he, hr⟩
    exact ⟨e, by rw [ServerHandle.settle_of_cell he]; exact he, hr⟩

theorem Sound.drop (sound : s.Sound torn h) (moved : s.drop? = some t) : t.Sound torn h := by
  obtain ⟨-, rfl⟩ := drop?_eq_some.1 moved
  exact ⟨nofun, sound.sending, sound.ready_congr rfl rfl rfl,
    sound.stands.frame (sent?_congr rfl rfl rfl) rfl rfl, sound.told⟩

/-- The invariant holds behind every event. Observers who are not torn receive only while nobody
settles. -/
theorem Sound.step {event : ServerEvent n} (sound : s.Sound torn h)
    (orderly : ∀ i expired, event = .receive i expired →
      (∃ j q exit, s.observers j = .settling q exit) → torn)
    (moved : s.step? event = some t) : ∃ k, t.Sound torn k := by
  cases event with
  | resolve path => exact ⟨h, sound.quiet (quiet_resolve moved)⟩
  | spawn launched => exact ⟨h, sound.quiet (quiet_spawn moved)⟩
  | awaited seen => exact ⟨h, sound.quiet (quiet_awaited moved)⟩
  | report => exact ⟨h, sound.quiet (quiet_report moved)⟩
  | send => exact sound.send moved
  | finish => exact sound.finish moved
  | ask i q => exact ⟨h, sound.ask moved⟩
  | receive i expired => exact sound.receive (orderly i expired rfl) moved
  | settle i => exact sound.settle moved
  | drop => exact ⟨h, sound.drop moved⟩

/-- What is in the cell was sent, unless it was taken for lost. -/
theorem ExitStands.of_cell (stands : s.ExitStands torn h) {exit : ServerExit}
    (cell : h.cell = some exit) :
    (∃ sent, s.sent? = some sent ∧ (exit = sent ∨ exit = .lost ∧ torn)) ∨
      s.sent? = none ∧ s.isGone = true ∧ exit = .lost := by
  cases stands with
  | unsent _ _ _ empty | waiting _ _ _ empty => simp [cell] at empty
  | taken sent hsent _ _ settled => exact .inl ⟨sent, hsent, settled exit cell⟩
  | lost sent gone _ _ settled => exact .inr ⟨sent, gone, settled exit cell⟩

/-- The program and the sink stay what they are. -/
theorem supervisor_step {event : ServerEvent n} (moved : s.step? event = some t) :
    t.supervisor.program = s.supervisor.program ∧ t.supervisor.sink = s.supervisor.sink := by
  cases event with
  | resolve path => exact ⟨(quiet_resolve moved).program, (quiet_resolve moved).sink⟩
  | spawn launched => exact ⟨(quiet_spawn moved).program, (quiet_spawn moved).sink⟩
  | awaited seen => exact ⟨(quiet_awaited moved).program, (quiet_awaited moved).sink⟩
  | report => exact ⟨(quiet_report moved).program, (quiet_report moved).sink⟩
  | send =>
    obtain ⟨_, _, -, -, -, rfl⟩ := send?_eq_some.1 moved
    exact ⟨rfl, rfl⟩
  | finish =>
    obtain ⟨_, -, rfl⟩ := finish?_eq_some.1 moved
    exact ⟨rfl, rfl⟩
  | ask i q =>
    obtain ⟨-, k, -, rfl⟩ := ask?_eq_some.1 moved
    cases k.cell <;> exact ⟨rfl, rfl⟩
  | receive i expired =>
    obtain ⟨_, _, -, -, ⟨_, -, rfl⟩ | ⟨-, -, rfl⟩ | ⟨-, -, -, rfl⟩⟩ := receive?_eq_some.1 moved <;>
      exact ⟨rfl, rfl⟩
  | settle i =>
    obtain ⟨_, _, _, -, -, rfl⟩ := settle?_eq_some.1 moved
    exact ⟨rfl, rfl⟩
  | drop =>
    obtain ⟨-, rfl⟩ := drop?_eq_some.1 moved
    exact ⟨rfl, rfl⟩

theorem supervisor_run {events : List (ServerEvent n)} (moved : s.run? events = some t) :
    t.supervisor.program = s.supervisor.program ∧ t.supervisor.sink = s.supervisor.sink := by
  induction events generalizing s with
  | nil =>
    obtain rfl := Option.some.inj moved
    exact ⟨rfl, rfl⟩
  | cons event rest ih =>
    obtain ⟨next, hstep, hrest⟩ := Option.bind_eq_some_iff.1 moved
    obtain ⟨hprogram, hsink⟩ := supervisor_step hstep
    obtain ⟨hprogram', hsink'⟩ := ih hrest
    exact ⟨hprogram'.trans hprogram, hsink'.trans hsink⟩

/-- Whether an observer has received something that it has not settled. -/
def isSettling (s : ServerScene n) : Bool :=
  decide (∃ i, (s.observers i).isSettling = true)

theorem isSettling_of_settling {q : Question} {exit : ServerExit}
    (hi : s.observers i = .settling q exit) : s.isSettling = true :=
  decide_eq_true ⟨i, by rw [hi]; rfl⟩

/-- Whether nobody receives while somebody has received and not settled. -/
def orderly (s : ServerScene n) : List (ServerEvent n) → Bool
  | [] => true
  | event :: rest =>
    !(event.isReceive && s.isSettling) && (s.step? event).all fun t => orderly t rest

/-- The invariant holds behind events. Observers who are not torn are orderly. -/
theorem sound_run {events : List (ServerEvent n)} (sound : s.Sound torn h)
    (orderly : torn ∨ s.orderly events = true) (moved : s.run? events = some t) :
    ∃ k, t.Sound torn k := by
  induction events generalizing s h with
  | nil =>
    obtain rfl := Option.some.inj moved
    exact ⟨h, sound⟩
  | cons event rest ih =>
    obtain ⟨next, hstep, hrest⟩ := Option.bind_eq_some_iff.1 moved
    have hfirst : torn ∨ (event.isReceive = false ∨ s.isSettling = false) ∧
        next.orderly rest = true := by
      refine orderly.imp id fun hall => ?_
      simpa [ServerScene.orderly, hstep] using hall
    have htorn : ∀ i expired, event = .receive i expired →
        (∃ j q exit, s.observers j = .settling q exit) → torn := by
      rintro i expired rfl ⟨j, q, exit, hj⟩
      refine hfirst.resolve_right fun hfree => ?_
      have hnobody : s.isSettling = false := hfree.1.resolve_left Bool.noConfusion
      rw [isSettling_of_settling hj] at hnobody
      contradiction
    obtain ⟨k, hk⟩ := sound.step htorn hstep
    exact ih hk (hfirst.imp id And.right) hrest

end InspectionHost.ServerScene
