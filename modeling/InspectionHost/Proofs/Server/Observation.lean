import InspectionHost.Proofs.Server.Exit

/-!
# What observers are told of a session

An observer on its own is told of no exit up to some time, and of one exit from then on: the exit
that the thread of the supervisor has sent, or that the session is lost if the thread has ended
without sending. All observers of one handle are told of the same exit. It is the one that was sent
as long as nobody receives while another observer has received and not settled. When somebody
does, an exit that was sent may be lost to all of them.

## Main definitions

* `ServerScene.InOrder` : the invariant of an observer on its own.

## Main results

* `ServerScene.stable_of_run` : what an observer on its own is told is stable and true.
* `ServerScene.told_of_run` : what any number of observers are told.
* `ServerScene.lost_between_observers` : an exit that was sent, and that nobody is told.
-/

namespace InspectionHost.ServerScene

variable {n : Nat}

/-! ### An observer on its own -/

/-- Nobody settles while an observer on its own receives. -/
theorem orderly_of_run {s t : ServerScene 1} {events : List (ServerEvent 1)}
    (moved : s.run? events = some t) : s.orderly events = true := by
  induction events generalizing s with
  | nil => rfl
  | cons event rest ih =>
    obtain ⟨next, hstep, hrest⟩ := Option.bind_eq_some_iff.1 moved
    have hfree : (event.isReceive && s.isSettling) = false := by
      cases event with
      | receive i expired =>
        obtain ⟨q, -, hi, -⟩ := receive?_eq_some.1 hstep
        have hnobody : ∀ j, (s.observers j).isSettling = false := by
          intro j
          rw [Subsingleton.elim j i, hi]
          rfl
        simp [isSettling, hnobody]
      | _ => rfl
    rw [orderly, hfree, hstep]
    exact ih hrest

/-- The invariant of an observer on its own: it is told of no exit, and then only of exits. When
there is something in the cell, it is idle; when it has been told of an exit, there is. -/
structure InOrder (s : ServerScene 1) : Prop where
  idle : ∀ h ∈ s.supervisor.handle, h.cell ≠ none → s.observers 0 = .idle
  told : ∃ early late, s.told = early ++ late ∧ (∀ r ∈ early, r.Tells none) ∧
    (∀ r ∈ late, ¬ r.Tells none) ∧
    (late ≠ [] → ∀ h ∈ s.supervisor.handle, h.cell ≠ none)

variable {s t : ServerScene 1} {h : ServerHandle}

theorem inOrder_start (program : String) (directory : Option String) (sink : Sink) :
    (start program directory sink 1).InOrder where
  idle := fun _ _ _ => rfl
  told := ⟨[], [], rfl, nofun, nofun, fun h => (h rfl).elim⟩

theorem InOrder.frame (order : s.InOrder) (observers : t.observers = s.observers)
    (told : t.told = s.told)
    (handle : ∀ k ∈ t.supervisor.handle, ∃ h ∈ s.supervisor.handle, k.cell = h.cell) :
    t.InOrder := by
  obtain ⟨early, late, htold, hearly, hlate, hcell⟩ := order.told
  refine ⟨?_, early, late, told.trans htold, hearly, hlate, ?_⟩
  · intro k hk hwritten
    obtain ⟨h, hh, hkh⟩ := handle k hk
    rw [observers]
    exact order.idle h hh (hkh ▸ hwritten)
  · intro hne k hk
    obtain ⟨h, hh, hkh⟩ := handle k hk
    rw [hkh]
    exact hcell hne h hh

theorem InOrder.tell_exit (order : s.InOrder) {k : ServerHandle}
    (handle : t.supervisor.handle = some k) (cell : k.cell ≠ none) {q : Question}
    {exit : ServerExit} (told : t.told = s.told ++ [⟨0, q, q.answer (some exit)⟩])
    (idle : t.observers 0 = .idle) : t.InOrder := by
  obtain ⟨early, late, htold, hearly, hlate, -⟩ := order.told
  refine ⟨fun _ _ _ => idle, early, late ++ [⟨0, q, q.answer (some exit)⟩], ?_, hearly, ?_, ?_⟩
  · rw [told, htold, List.append_assoc]
  · intro r hr
    rcases List.mem_append.1 hr with hr | hr
    · exact hlate r hr
    · obtain rfl := List.mem_singleton.1 hr
      exact Reply.Tells.ne rfl
  · intro _ k' hk'
    rw [handle] at hk'
    obtain rfl := Option.some.inj hk'
    exact cell

theorem InOrder.cell_of_busy (order : s.InOrder) (handle : s.supervisor.handle = some h)
    (busy : s.observers 0 ≠ .idle) : h.cell = none := by
  by_contra hwritten
  exact busy (order.idle h handle hwritten)

theorem InOrder.of_empty (order : s.InOrder) (handle : s.supervisor.handle = some h)
    (empty : h.cell = none) {more : List (Reply 1)} (told : t.told = s.told ++ more)
    (none_ : ∀ r ∈ more, r.Tells none) (still : ∀ k ∈ t.supervisor.handle, k.cell = none) :
    t.InOrder := by
  obtain ⟨early, late, htold, hearly, hlate, hcell⟩ := order.told
  have hnothing : late = [] := by
    by_contra hne
    exact hcell hne h handle empty
  subst hnothing
  refine ⟨fun k hk hwritten => (hwritten (still k hk)).elim, early ++ more, [], ?_, ?_, nofun,
    fun hne => (hne rfl).elim⟩
  · rw [told, htold, List.append_nil, List.append_nil]
  · intro r hr
    exact (List.mem_append.1 hr).elim (hearly r) (none_ r)

theorem InOrder.quiet (order : s.InOrder) (moved : s.Quiet t) : t.InOrder :=
  order.frame moved.observers moved.told fun k hk => ⟨k, moved.handle ▸ hk, rfl⟩

/-- The observer stays in order behind every event. -/
theorem InOrder.step {event : ServerEvent 1} (order : s.InOrder)
    (moved : s.step? event = some t) : t.InOrder := by
  cases event with
  | resolve path => exact order.quiet (quiet_resolve moved)
  | spawn launched => exact order.quiet (quiet_spawn moved)
  | awaited seen => exact order.quiet (quiet_awaited moved)
  | report => exact order.quiet (quiet_report moved)
  | send =>
    obtain ⟨session, exit, -, -, -, rfl⟩ := send?_eq_some.1 moved
    refine order.frame rfl rfl fun k hk => ?_
    obtain ⟨h, hh, rfl⟩ := Option.mem_map.1 hk
    exact ⟨h, hh, rfl⟩
  | finish =>
    obtain ⟨session, -, rfl⟩ := finish?_eq_some.1 moved
    refine order.frame rfl rfl fun k hk => ?_
    obtain ⟨h, hh, rfl⟩ := Option.mem_map.1 hk
    exact ⟨h, hh, rfl⟩
  | ask i q =>
    obtain rfl : i = 0 := Subsingleton.elim i 0
    obtain ⟨-, h, hh, rfl⟩ := ask?_eq_some.1 moved
    cases hcell : h.cell with
    | some exit => exact order.tell_exit hh (by simp [hcell]) rfl (observers_tell_self ..)
    | none =>
      have hstill : ∀ k ∈ s.supervisor.handle, k.cell = none := by simpa [hh] using hcell
      exact order.of_empty hh hcell (List.append_nil _).symm nofun hstill
  | receive i expired =>
    obtain rfl : i = 0 := Subsingleton.elim i 0
    obtain ⟨q, h, hi, hh, hmoved⟩ := receive?_eq_some.1 moved
    have hcell : h.cell = none := order.cell_of_busy hh (by simp [hi])
    have hstill : ∀ k ∈ s.supervisor.handle, k.cell = none := by simpa [hh] using hcell
    rcases hmoved with ⟨exit, -, rfl⟩ | ⟨-, -, rfl⟩ | ⟨-, -, -, rfl⟩
    · refine order.of_empty hh hcell (List.append_nil _).symm nofun ?_
      intro k hk
      obtain rfl := Option.some.inj hk
      exact hcell
    · exact order.of_empty hh hcell (List.append_nil _).symm nofun hstill
    · refine order.of_empty hh hcell rfl ?_ hstill
      intro r hr
      obtain rfl := List.mem_singleton.1 hr
      rfl
  | settle i =>
    obtain rfl : i = 0 := Subsingleton.elim i 0
    obtain ⟨q, exit, h, hi, hh, rfl⟩ := settle?_eq_some.1 moved
    have hwritten : (h.settle exit).2.cell ≠ none := by simp
    exact order.tell_exit (k := (h.settle exit).2) rfl hwritten rfl (observers_tell_self ..)
  | drop =>
    obtain ⟨-, rfl⟩ := drop?_eq_some.1 moved
    exact order.frame rfl rfl nofun

theorem inOrder_run {events : List (ServerEvent 1)} (order : s.InOrder)
    (moved : s.run? events = some t) : t.InOrder := by
  induction events generalizing s with
  | nil =>
    obtain rfl := Option.some.inj moved
    exact order
  | cons event rest ih =>
    obtain ⟨next, hstep, hrest⟩ := Option.bind_eq_some_iff.1 moved
    exact ih (order.step hstep) hrest

/-- **What an observer on its own is told is stable and true.** Let one observer ask the handle of a
server any questions, in any order with the steps of the thread of its supervisor. Then:

* The observer is told of no exit before the thread has sent one or is gone.
* It is told of no exit up to some time, and of the same exit from then on; as long as there is a
  handle, it is told so at once. That exit is what the thread has sent, or that the session is lost,
  which it is told exactly if the thread is gone and has sent nothing.
* What the thread sends is the exit of the session, and it sends nothing exactly if the sink has
  refused the diagnostic of the session.
* The thread need never wait to send, whether or not there is a handle. -/
theorem stable_of_run (program : String) (directory : Option String) (sink : Sink)
    {events : List (ServerEvent 1)} {s : ServerScene 1}
    (moved : (start program directory sink 1).run? events = some s) :
    (s.sent? = none → s.isGone = false → ∀ r ∈ s.told, r.Tells none) ∧
      (∃ early late exit, s.told = early ++ late ∧ (∀ r ∈ early, r.Tells none) ∧
        (∀ r ∈ late, r.Tells (some exit)) ∧
        (late ≠ [] →
          (s.sent? = some exit ∧ exit ≠ .lost ∨
            s.sent? = none ∧ s.isGone = true ∧ exit = .lost) ∧
          ∀ q, s.supervisor.handle.isSome →
            s.step? (.ask 0 q) = some (s.tell 0 q (some exit)))) ∧
      (∀ session, s.thread = .closing session ∨ s.thread = .gone session →
        (s.sent? = none ↔ sink = .refusing ∧ (session.diagnostic? program).isSome) ∧
        ∀ exit, s.sent? = some exit → exit = session.exit program) ∧
      ∀ session, s.thread = .sending session → (s.step? .send).isSome := by
  obtain ⟨h, sound⟩ : ∃ h, s.Sound False h :=
    sound_run (sound_start program directory sink) (.inr (orderly_of_run moved)) moved
  have order : s.InOrder := inOrder_run (inOrder_start program directory sink) moved
  obtain ⟨hprogram, hsink⟩ : s.supervisor.program = program ∧ s.supervisor.sink = sink :=
    supervisor_run moved
  refine ⟨?_, ?_, ?_, ?_⟩
  · intro hsent hpresent r hr
    refine (sound.told r hr).resolve_right ?_
    rintro ⟨exit, hcell, -⟩
    rcases sound.stands.of_cell hcell with ⟨sent, hsome, -⟩ | ⟨-, hgone, -⟩
    · simp [hsent] at hsome
    · simp [hpresent] at hgone
  · obtain ⟨early, late, htold, hearly, hlate, -⟩ := order.told
    have hknown : ∀ r ∈ late, ∃ exit, h.cell = some exit ∧ r.Tells (some exit) := by
      intro r hr
      have hmem : r ∈ s.told := htold ▸ List.mem_append_right early hr
      exact (sound.told r hmem).resolve_left (hlate r hr)
    cases hcell : h.cell with
    | none =>
      have hnothing : late = [] := by
        rw [List.eq_nil_iff_forall_not_mem]
        intro r hr
        obtain ⟨exit, hsome, -⟩ := hknown r hr
        simp [hcell] at hsome
      exact ⟨early, late, .lost, htold, hearly, by simp [hnothing], by simp [hnothing]⟩
    | some exit =>
      refine ⟨early, late, exit, htold, hearly, ?_, fun _ => ⟨?_, ?_⟩⟩
      · intro r hr
        obtain ⟨exit', hsome, hr⟩ := hknown r hr
        obtain rfl : exit = exit' := by simpa [hcell] using hsome
        exact hr
      · refine (sound.stands.of_cell hcell).imp ?_ id
        rintro ⟨sent, hsent, rfl | ⟨-, hfalse⟩⟩
        · exact ⟨hsent, ne_lost_of_sent? hsent⟩
        · exact hfalse.elim
      · intro q hpresent
        obtain ⟨k, hk⟩ := Option.isSome_iff_exists.1 hpresent
        obtain rfl := sound.handle k hk
        have hidle : s.observers 0 = .idle := order.idle k hk (by simp [hcell])
        exact ask?_eq_some.2 ⟨hidle, k, hk, by rw [hcell]⟩
  · intro session hthread
    refine ⟨?_, fun exit hsent => ?_⟩
    · rw [sent?_eq_none_iff hthread, hprogram, hsink]
    · rw [eq_exit_of_sent? hthread hsent, hprogram]
  · intro session hthread
    exact sound.send_moves hthread

/-- An observer that asks too early, then waits for a server that ends with a code, and asks once
more. -/
theorem stable_of_run_code :
    let events : List (ServerEvent 1) := [.resolve (some "/bin/server"), .spawn (.ok 7),
      .ask 0 .tryExit, .receive 0 false, .ask 0 .wait, .awaited (.ok (.code 3)), .report, .send,
      .receive 0 false, .settle 0, .finish, .ask 0 .isRunning]
    ∃ s, (start "server" none .channel 1).run? events = some s ∧
      s.told = [⟨0, .tryExit, .exit none⟩, ⟨0, .wait, .exit (some (.exited (some 3)))⟩,
        ⟨0, .isRunning, .running false⟩] ∧
      ∃ early late exit, s.told = early ++ late ∧ (∀ r ∈ early, r.Tells none) ∧
        (∀ r ∈ late, r.Tells (some exit)) ∧
        (late ≠ [] →
          (s.sent? = some exit ∧ exit ≠ .lost ∨
            s.sent? = none ∧ s.isGone = true ∧ exit = .lost) ∧
          ∀ q, s.supervisor.handle.isSome →
            s.step? (.ask 0 q) = some (s.tell 0 q (some exit))) := by
  intro events
  obtain ⟨s, moved, told⟩ : ∃ s, (start "server" none .channel 1).run? events = some s ∧
      s.told = [⟨0, .tryExit, .exit none⟩, ⟨0, .wait, .exit (some (.exited (some 3)))⟩,
        ⟨0, .isRunning, .running false⟩] := ⟨_, rfl, rfl⟩
  obtain ⟨-, stable, -, -⟩ := stable_of_run "server" none .channel moved
  exact ⟨s, moved, told, stable⟩

/-- When the sink refuses to be told that there is no server, the session is lost. -/
example : ∃ s, (start "server" none .refusing 1).run? [.resolve none, .report, .finish,
      .ask 0 .tryExit, .receive 0 false, .settle 0] = some s ∧
    s.told = [⟨0, .tryExit, .exit (some .lost)⟩] :=
  ⟨_, rfl, rfl⟩

/-! ### Observers beside each other -/

/-- **Observers are told of the same exit.** Let any number of observers ask the handle of a server
any questions, in any order with the steps of the thread of its supervisor. Then all who are told
of an exit are told of the same one. If the thread has sent an exit, it is that one, or all are told
that the session is lost; and it is that one if nobody has received while another observer had
received and not settled. -/
theorem told_of_run (program : String) (directory : Option String) (sink : Sink)
    {events : List (ServerEvent n)} {s : ServerScene n}
    (moved : (start program directory sink n).run? events = some s) :
    ∃ exit, (∀ r ∈ s.told, r.Tells none ∨ r.Tells (some exit)) ∧
      ∀ sent, s.sent? = some sent → (exit = sent ∨ exit = .lost) ∧
        ((start program directory sink n).orderly events = true → exit = sent) := by
  obtain ⟨h, sound⟩ : ∃ h, s.Sound (¬ (start program directory sink n).orderly events = true) h :=
    sound_run (sound_start program directory sink) (em _).symm moved
  cases hcell : h.cell with
  | none =>
    have hnone : ∀ r ∈ s.told, r.Tells none := by
      intro r hr
      refine (sound.told r hr).resolve_right ?_
      rintro ⟨exit, hsome, -⟩
      simp [hcell] at hsome
    refine ⟨s.sent?.getD .lost, fun r hr => .inl (hnone r hr), ?_⟩
    intro sent hsent
    rw [hsent]
    exact ⟨.inl rfl, fun _ => rfl⟩
  | some exit =>
    refine ⟨exit, ?_, ?_⟩
    · intro r hr
      refine (sound.told r hr).imp id ?_
      rintro ⟨exit', hsome, hr⟩
      obtain rfl : exit = exit' := by simpa [hcell] using hsome
      exact hr
    · intro sent hsent
      rcases sound.stands.of_cell hcell with ⟨sent', hsent', hexit⟩ | ⟨hnone, -, -⟩
      · obtain rfl : sent = sent' := by simpa [hsent] using hsent'
        refine ⟨hexit.imp id And.left, fun orderly => ?_⟩
        exact hexit.resolve_right fun torn => torn.2 orderly
      · simp [hsent] at hnone

/-- Two observers wait. One takes the exit out of the mailbox and settles it, and then the other
finds the mailbox closed and the cell written. -/
theorem told_of_run_orderly :
    let events : List (ServerEvent 2) := [.resolve (some "/bin/server"), .spawn (.ok 7),
      .awaited (.ok (.code 0)), .report, .ask 0 .wait, .ask 1 .wait, .send, .finish,
      .receive 0 false, .settle 0, .receive 1 false, .settle 1]
    ∃ s, (start "server" none .channel 2).run? events = some s ∧
      (start "server" none .channel 2).orderly events = true ∧
      ∃ exit, (∀ r ∈ s.told, r.Tells none ∨ r.Tells (some exit)) ∧
        exit = .exited (some 0) := by
  intro events
  have horderly : (start "server" none .channel 2).orderly events = true := by decide
  obtain ⟨s, moved, sent⟩ : ∃ s, (start "server" none .channel 2).run? events = some s ∧
      s.sent? = some (.exited (some 0)) := ⟨_, rfl, rfl⟩
  obtain ⟨exit, htold, hexit⟩ := told_of_run "server" none .channel moved
  exact ⟨s, moved, horderly, exit, htold, (hexit _ sent).2 horderly⟩

/-- Two observers wait for a server that ends by success, and its exit is sent. One takes it out of
the mailbox; before it settles that, the other finds the mailbox closed and settles that the session
is lost. Both are told so. -/
theorem lost_between_observers :
    ∃ s, (start "server" none .channel 2).run? [.resolve (some "/bin/server"), .spawn (.ok 7),
        .awaited (.ok (.code 0)), .report, .ask 0 .wait, .ask 1 .wait, .send, .finish,
        .receive 0 false, .receive 1 false, .settle 1, .settle 0] = some s ∧
      s.sent? = some (.exited (some 0)) ∧
      s.told = [⟨1, .wait, .exit (some .lost)⟩, ⟨0, .wait, .exit (some .lost)⟩] :=
  ⟨_, rfl, rfl, rfl⟩

end InspectionHost.ServerScene
