import InspectionHost.Proofs.Host.Server
import InspectionHost.Proofs.Session.Scene

/-!
# A session does not depend on its server

The session and the thread of its supervisor share nothing but the sink. A step of the server leaves
the session where it is, and a step of the session does not look at the server. So a run of the
scene is, for the session, a run without a server, and two runs in which the clients behave alike
are alike for the session, whether there is a server or not and whatever becomes of it.

## Main definitions

* `SessionScene.alone` : the scene without its server.
* `SessionScene.Alike` : scenes that differ by what has to do with the server.
* `SessionScene.Accounts` : the sink has taken what the thread of the server has reported.
* `SessionScene.launchesLeft` : how many launches of the server are left.

## Main results

* `SessionScene.map_alone_step` : a step of the session is a step without the server.
* `SessionScene.alone_run` : a run is, for the session, a run without the server.
* `SessionScene.accounts_run` : the sink takes what the thread of the server reports.
* `SessionScene.exists_step` : a session that is not over can go on.
* `SessionScene.exists_look` : the look at the handle comes to its end.
* `SessionScene.alike_of_run` : sessions beside servers.
-/

namespace InspectionHost

open InspectionHost.Session InspectionHost.Text

theorem CallScene.isServer_of_mem_hands {s : CallScene} {e : CallEvent} {d : Diagnostic}
    (handed : d ∈ s.hands e) : d.kind.isServer = false := by
  unfold hands at handed
  split at handed
  · split at handed
    · exact ActiveCall.isServer_of_mem_conclude handed
    · exact ActiveCall.isServer_of_mem_conclude handed
    · simp at handed
  all_goals simp at handed

namespace ServerScene

variable {n : Nat} {s t : ServerScene n} {event : ServerEvent n}

theorem isServer_of_mem_hands {d : Diagnostic} (handed : d ∈ s.hands event) :
    d.kind.isServer = true := by
  unfold hands at handed
  split at handed
  · split at handed
    · exact SessionEnd.isServer_of_diagnostic? (SessionEnd.diagnostic?_of_mem_reported handed)
    · simp at handed
  · simp at handed

theorem observers_step (moved : s.step? event = some t) (thread : event.isObserver = false) :
    t.observers = s.observers ∧ t.told = s.told := by
  cases event with
  | resolve path => exact ⟨(quiet_resolve moved).observers, (quiet_resolve moved).told⟩
  | spawn launched => exact ⟨(quiet_spawn moved).observers, (quiet_spawn moved).told⟩
  | awaited seen => exact ⟨(quiet_awaited moved).observers, (quiet_awaited moved).told⟩
  | report => exact ⟨(quiet_report moved).observers, (quiet_report moved).told⟩
  | send =>
    obtain ⟨_, _, -, -, -, rfl⟩ := send?_eq_some.1 moved
    exact ⟨rfl, rfl⟩
  | finish =>
    obtain ⟨_, -, rfl⟩ := finish?_eq_some.1 moved
    exact ⟨rfl, rfl⟩
  | ask i q | receive i expired | settle i | drop => contradiction

/-- Nobody has asked a handle that is there. -/
structure Unasked (s : ServerScene n) : Prop where
  handle : s.supervisor.handle.isSome
  idle : ∀ i, s.observers i = .idle
  told : s.told = []

theorem Unasked.step (unasked : s.Unasked) (moved : s.step? event = some t)
    (thread : event.isObserver = false) : t.Unasked := by
  obtain ⟨observers, told⟩ := observers_step moved thread
  refine ⟨?_, by rw [observers]; exact unasked.idle, told.trans unasked.told⟩
  rw [isSome_handle_step moved (by rintro rfl; contradiction)]
  exact unasked.handle

end ServerScene

namespace SessionScene

variable {s t : SessionScene} {event : SessionEvent}

/-! ### The session alone -/

/-- The scene without its server. -/
def alone (s : SessionScene) : SessionScene :=
  { s with server := none, reports := s.reports.filter fun d => !d.kind.isServer }

/-- Scenes that differ by what has to do with the server. -/
structure Alike (s t : SessionScene) : Prop where
  /-- What is still to be done. -/
  turns : s.turns = t.turns
  /-- The call under way. -/
  call : s.call = t.call
  /-- What is written, and what the clients have answered to which commands. -/
  progress : s.progress = t.progress
  aborted : s.aborted = t.aborted
  /-- What the sink has taken from the calls. -/
  diagnostics : (s.reports.filter fun d => !d.kind.isServer) =
    t.reports.filter fun d => !d.kind.isServer

theorem alike_of_alone_eq (same : s.alone = t.alone) : s.Alike t where
  turns := show s.alone.turns = t.alone.turns by rw [same]
  call := show s.alone.call = t.alone.call by rw [same]
  progress := show s.alone.progress = t.alone.progress by rw [same]
  aborted := show s.alone.aborted = t.alone.aborted by rw [same]
  diagnostics := show s.alone.reports = t.alone.reports by rw [same]

theorem filter_append_hands (ds : List Diagnostic) (c : CallScene) (e : CallEvent) :
    ((ds ++ c.hands e).filter fun d => !d.kind.isServer) =
      (ds.filter fun d => !d.kind.isServer) ++ c.hands e := by
  have all : (c.hands e).filter (fun d => !d.kind.isServer) = c.hands e := by
    rw [List.filter_eq_self]
    intro d handed
    rw [CallScene.isServer_of_mem_hands handed, Bool.not_false]
  rw [List.filter_append, all]

/-- A step of the session is a step without the server, and can be made just when that can. -/
theorem map_alone_step (session : event.isSession = true) :
    (s.step? event).map alone = s.alone.step? event := by
  cases event with
  | server event => contradiction
  | write =>
    simp only [step?, write?, alone]
    split
    · simp only [Option.map_map]
      rfl
    · rfl
  | call answer =>
    simp only [step?, call?, alone]
    split <;> rfl
  | client event =>
    simp only [step?, client?, alone, Option.map_map]
    cases s.call with
    | none => rfl
    | some c =>
      simp only [Option.map_some, Function.comp, alone, filter_append_hands]
  | take =>
    simp only [step?, take?, alone]
    split
    · simp only [Option.map_some, answered]
      split <;> rfl
    · rfl

/-- A step of the server leaves the session where it is. -/
theorem alone_step_server {event : ServerEvent 1} (moved : s.step? (.server event) = some t) :
    t.alone = s.alone := by
  obtain ⟨-, v, next, -, -, rfl⟩ := server?_eq_some.1 moved
  have nothing : (v.hands event).filter (fun d => !d.kind.isServer) = [] := by
    rw [List.filter_eq_nil_iff]
    intro d handed
    simp [ServerScene.isServer_of_mem_hands handed]
  simp only [alone, List.filter_append, nothing, List.append_nil]

/-- A run is, for the session, a run without the server. -/
theorem alone_run {events : List SessionEvent} (moved : s.run? events = some t) :
    s.alone.run? (events.filter SessionEvent.isSession) = some t.alone := by
  induction events generalizing s with
  | nil =>
    obtain rfl := Option.some.inj moved
    rfl
  | cons event rest ih =>
    obtain ⟨next, hstep, hrest⟩ := Option.bind_eq_some_iff.1 moved
    cases session : event.isSession with
    | true =>
      have hstep' : s.alone.step? event = some next.alone := by
        rw [← map_alone_step session, hstep]
        rfl
      rw [List.filter_cons_of_pos session, run?, List.foldlM_cons, hstep']
      exact ih hrest
    | false =>
      have same : next.alone = s.alone := by
        cases event with
        | server event => exact alone_step_server hstep
        | _ => contradiction
      rw [List.filter_cons_of_neg (by simp [session]), ← same]
      exact ih hrest

theorem alone_begin (f : Front) (settings : Settings) (noServer : Bool) (text : List Char) :
    (begin f settings noServer text).alone =
      .start f (Mode.top.run ((cutBehind '\n' text).map some)).turns none :=
  rfl

theorem Alike.isOver (alike : s.Alike t) : s.isOver = t.isOver := by
  rw [SessionScene.isOver, SessionScene.isOver, alike.call, alike.turns, alike.aborted]

theorem Alike.outcome (alike : s.Alike t) (unread : List (List UInt8)) :
    s.outcome unread = t.outcome unread := by
  rw [SessionScene.outcome, SessionScene.outcome, alike.aborted, alike.progress]

/-- A session that is not over can go on, whatever its server does. -/
theorem exists_step (going : s.isOver = false) :
    ∃ event, event.isSession = true ∧ (s.step? event).isSome = true := by
  cases call : s.call with
  | some c => exact ⟨.client (.turn none), rfl, by simp [step?, client?, call]⟩
  | none =>
    have left : s.turns.isEmpty = false ∧ s.aborted = none := by simpa [isOver, call] using going
    cases turns : s.turns with
    | nil => simp [turns] at left
    | cons turn rest =>
      cases turn with
      | prompt words =>
        exact ⟨.write, rfl, by simp [step?, write?, call, turns, left.2, Turn.text?]⟩
      | say line => exact ⟨.write, rfl, by simp [step?, write?, call, turns, left.2, Turn.text?]⟩
      | call command => exact ⟨.call .notFound, rfl, by simp [step?, call?, call, turns, left.2]⟩

/-! ### The server beside it -/

/-- What the thread of the server has reported. -/
def serverReports (s : SessionScene) : List Diagnostic :=
  (s.server.map ServerScene.reports).getD []

/-- What the sink has taken that is about the server has been reported by its thread. -/
def Accounts (s : SessionScene) : Prop :=
  (s.reports.filter fun d => d.kind.isServer) = s.serverReports

/-- How many launches of the server are left. -/
def launchesLeft (s : SessionScene) : Nat :=
  (s.server.map ServerScene.launchesLeft).getD 0

theorem server_step (session : event.isSession = true) (moved : s.step? event = some t) :
    t.server = s.server := by
  cases event with
  | server event => contradiction
  | write =>
    obtain ⟨-, -, _, _, _, -, -, rfl⟩ := write?_eq_some.1 moved
    rfl
  | call answer =>
    obtain ⟨-, -, _, _, -, rfl⟩ := call?_eq_some.1 moved
    rfl
  | client event =>
    obtain ⟨_, -, rfl⟩ := client?_eq_some.1 moved
    rfl
  | take =>
    obtain ⟨_, result, command, _, -, -, -, -, rfl⟩ := take?_eq_some.1 moved
    unfold answered
    split <;> rfl

/-- What the thread reports is what the sink takes. -/
theorem Accounts.step (accounts : s.Accounts) (moved : s.step? event = some t) : t.Accounts := by
  cases event with
  | server event =>
    obtain ⟨-, v, next, there, hstep, rfl⟩ := server?_eq_some.1 moved
    have all : (v.hands event).filter (fun d => d.kind.isServer) = v.hands event :=
      List.filter_eq_self.2 fun d handed => ServerScene.isServer_of_mem_hands handed
    simp only [Accounts, serverReports, there, Option.map_some, Option.getD_some] at accounts ⊢
    rw [List.filter_append, accounts, all, ServerScene.reports_step hstep]
  | client event =>
    obtain ⟨c, -, rfl⟩ := client?_eq_some.1 moved
    have nothing : (c.hands event).filter (fun d => d.kind.isServer) = [] := by
      rw [List.filter_eq_nil_iff]
      intro d handed
      simp [CallScene.isServer_of_mem_hands handed]
    simp only [Accounts, serverReports] at accounts ⊢
    rw [List.filter_append, accounts, nothing, List.append_nil]
  | write =>
    obtain ⟨-, -, _, _, _, -, -, rfl⟩ := write?_eq_some.1 moved
    exact accounts
  | call answer =>
    obtain ⟨-, -, _, _, -, rfl⟩ := call?_eq_some.1 moved
    exact accounts
  | take =>
    obtain ⟨_, result, command, _, -, -, -, -, rfl⟩ := take?_eq_some.1 moved
    unfold answered
    split <;> exact accounts

/-- What the thread reports is what the sink takes, behind events. -/
theorem accounts_run {events : List SessionEvent} (accounts : s.Accounts)
    (moved : s.run? events = some t) : t.Accounts :=
  run_induction (P := Accounts) (fun _ _ _ _ before hstep => before.step hstep) accounts moved

theorem launchesLeft_step (moved : s.step? event = some t) :
    t.launchesLeft + (if event.isSpawn then 1 else 0) ≤ s.launchesLeft := by
  cases event with
  | server event =>
    obtain ⟨-, v, next, there, hstep, rfl⟩ := server?_eq_some.1 moved
    simp only [launchesLeft, there, Option.map_some, Option.getD_some]
    exact ServerScene.launchesLeft_step hstep
  | _ =>
    rw [launchesLeft, launchesLeft, server_step rfl moved]
    exact Nat.le_refl _

/-- There are no more launches than were left. -/
theorem countP_isSpawn_le {events : List SessionEvent} (moved : s.run? events = some t) :
    events.countP SessionEvent.isSpawn + t.launchesLeft ≤ s.launchesLeft := by
  induction events generalizing s with
  | nil =>
    obtain rfl := Option.some.inj moved
    simp
  | cons event rest ih =>
    obtain ⟨next, hstep, hrest⟩ := Option.bind_eq_some_iff.1 moved
    have first := launchesLeft_step hstep
    have later := ih hrest
    rw [List.countP_cons]
    omega

/-- What happens to the server of a session that is over happens in the scene, and leaves the
session where it is. -/
theorem run?_server {events : List (ServerEvent 1)} {v w : ServerScene 1} (ended : s.isOver = true)
    (there : s.server = some v) (moved : v.run? events = some w) :
    ∃ t, s.run? (events.map .server) = some t ∧ t.server = some w ∧ t.alone = s.alone := by
  induction events generalizing s v with
  | nil =>
    obtain rfl := Option.some.inj moved
    exact ⟨s, rfl, there, rfl⟩
  | cons event rest ih =>
    obtain ⟨next, hstep, hrest⟩ := Option.bind_eq_some_iff.1 moved
    let mid : SessionScene :=
      { s with server := some next, reports := s.reports ++ v.hands event }
    have first : s.step? (.server event) = some mid :=
      server?_eq_some.2 ⟨fun _ => ended, v, next, there, hstep, rfl⟩
    have still : mid.isOver = true := ended
    obtain ⟨t, later, server, same⟩ := ih still rfl hrest
    refine ⟨t, ?_, server, same.trans (alone_step_server first)⟩
    rw [List.map_cons, run?, List.foldlM_cons, first]
    exact later

/-- A server that nobody has asked is asked by nobody but the session. -/
theorem unasked_step (threads : ∀ e, event = .server e → e.isObserver = false)
    (unasked : ∀ v, s.server = some v → v.Unasked) (moved : s.step? event = some t) :
    ∀ v, t.server = some v → v.Unasked := by
  cases event with
  | server event =>
    obtain ⟨-, v, next, there, moved', rfl⟩ := server?_eq_some.1 moved
    intro w same
    obtain rfl := Option.some.inj same
    exact (unasked v there).step moved' (threads event rfl)
  | _ =>
    rw [server_step rfl moved]
    exact unasked

theorem unasked_run {events : List SessionEvent} (moved : s.run? events = some t)
    (threads : ∀ event, .server event ∈ events → event.isObserver = false)
    (unasked : ∀ v, s.server = some v → v.Unasked) : ∀ v, t.server = some v → v.Unasked :=
  run_induction (P := fun u => ∀ v, u.server = some v → v.Unasked)
    (fun _ there _ _ unasked hstep =>
      unasked_step (fun e same => threads e (same ▸ there)) unasked hstep)
    unasked moved

/-- When a session is over, its look at the handle comes to its end. -/
theorem exists_look (ended : s.isOver = true) {v : ServerScene 1} (there : s.server = some v)
    (unasked : v.Unasked) : ∃ (look : List (ServerEvent 1)) (t : SessionScene) (w : ServerScene 1)
      (exit : Option ServerExit), s.run? (look.map .server) = some t ∧
      t.alone = s.alone ∧ t.server = some w ∧ w.told = [⟨0, .tryExit, .exit exit⟩] := by
  obtain ⟨h, handle⟩ := Option.isSome_iff_exists.1 unasked.handle
  obtain ⟨look, moved⟩ :=
    ServerScene.run?_question (q := .tryExit) (unasked.idle 0) handle nofun
  obtain ⟨t, hlook, server, same⟩ := run?_server ended there moved
  refine ⟨look, t, _, h.tryExit.1, hlook, same, server, ?_⟩
  change v.told ++ _ = _
  rw [unasked.told]
  rfl

/-- **A session does not depend on its server.** Take two runs of sessions over the same text, each
with a server or without one, in which the same things happen to the sessions and their clients in
the same order. The servers may be missing, fail to launch, end at any time and in any way or never
end, and their threads may take their steps at any time. Then:

* The sessions are at the same turn and the same clients have answered the same to the same
  commands. The same is written, and the sink has taken the same diagnostics but for those about
  the server. The latter are what the thread of the server has reported.
* If one of the sessions is over, so is the other. Then they have done what `Session.serve` does
  when the commands are answered so.
* What can happen next to one session or its client can happen to the other. Something can, unless
  they are over.
* A server is launched once at most, and not at all where a switch disables it.
* The look at the handle that ends a session comes to its end, and leaves the session as it is. -/
theorem alike_of_run (f : Front) (text : List Char) {settings settings' : Settings}
    {noServer noServer' : Bool} {events events' : List SessionEvent} {s s' : SessionScene}
    (moved : (begin f settings noServer text).run? events = some s)
    (moved' : (begin f settings' noServer' text).run? events' = some s')
    (same : events.filter SessionEvent.isSession = events'.filter SessionEvent.isSession) :
    s.Alike s' ∧
    (s.reports.filter fun d => d.kind.isServer) = (s.server.map ServerScene.reports).getD [] ∧
    (s.isOver = true → s'.isOver = true ∧ ∃ unread, s.outcome unread = s'.outcome unread ∧
      Session.serve (replaying (s.progress.state.map Prod.snd)) f.json [] (Utf8.encode text) =
        (s.outcome unread, s.progress.state)) ∧
    (∀ event, event.isSession = true → (s.step? event).isSome = (s'.step? event).isSome) ∧
    (s.isOver = false → ∃ event, event.isSession = true ∧ (s.step? event).isSome = true) ∧
    events.countP SessionEvent.isSpawn ≤ (if settings.startServer && !noServer then 1 else 0) ∧
    (s.isOver = true → (∀ event, SessionEvent.server event ∈ events → event.isObserver = false) →
      ∀ v, s.server = some v → ∃ (look : List (ServerEvent 1)) (t : SessionScene)
      (w : ServerScene 1) (exit : Option ServerExit), s.run? (look.map .server) = some t ∧
        t.Alike s ∧ t.server = some w ∧ w.told = [⟨0, .tryExit, .exit exit⟩]) := by
  have alone := alone_run moved
  have alone' := alone_run moved'
  rw [alone_begin, same] at alone
  rw [alone_begin, alone] at alone'
  have equal : s.alone = s'.alone := Option.some.inj alone'
  have alike := alike_of_alone_eq equal
  refine ⟨alike, ?_, fun ended => ?_, fun event session => ?_, exists_step, ?_,
    fun ended threads v there => ?_⟩
  · have accounts : (begin f settings noServer text).Accounts := by
      simp only [Accounts, serverReports, begin, start]
      split <;> rfl
    exact accounts_run accounts moved
  · exact ⟨alike.isOver ▸ ended, _, alike.outcome _, serve_of_isOver moved ended⟩
  · have first := congrArg Option.isSome (map_alone_step (s := s) session)
    have second := congrArg Option.isSome (map_alone_step (s := s') session)
    rw [Option.isSome_map] at first second
    rw [first, second, equal]
  · have bound := Nat.le_of_add_right_le (countP_isSpawn_le moved)
    have left : (begin f settings noServer text).launchesLeft =
        if settings.startServer && !noServer then 1 else 0 := by
      unfold launchesLeft begin start
      split <;> rfl
    rwa [left] at bound
  · have unasked : ∀ w, (begin f settings noServer text).server = some w → w.Unasked := by
      intro w hw
      obtain ⟨-, same⟩ := Option.ite_none_right_eq_some.1 hw
      obtain rfl := Option.some.inj same
      exact ⟨rfl, fun _ => rfl, rfl⟩
    obtain ⟨look, t, w, exit, hlook, leaves, server, told⟩ :=
      exists_look ended there (unasked_run moved threads unasked v there)
    exact ⟨look, t, w, exit, hlook, alike_of_alone_eq leaves, server, told⟩

/-- A session asks a client that is missing, beside a server that is missing too and without one.
The sink is told of the server in the first run only. -/
theorem alike_of_run_missing_programs :
    let f : Front := ⟨.ofOptions .standard, .channel, false⟩
    let text := "parse a".toList
    let run := (begin f .standard false text).run? [.write, .server (.resolve none),
      .call .notFound, .server .report, .client (.turn none), .client (.turn none), .take,
      .server .send, .write]
    let run' := (begin f .standard true text).run?
      [.write, .call .notFound, .client (.turn none), .client (.turn none), .take, .write]
    (∃ s s', run = some s ∧ run' = some s' ∧ s.Alike s') ∧
      run.map (·.reports.map Diagnostic.kind) = some [.serverLaunchFailed, .clientLaunchFailed] ∧
      run'.map (·.reports.map Diagnostic.kind) = some [.clientLaunchFailed] := by
  intro f text run run'
  obtain ⟨s, moved⟩ := Option.isSome_iff_exists.1 (show run.isSome from rfl)
  obtain ⟨s', moved'⟩ := Option.isSome_iff_exists.1 (show run'.isSome from rfl)
  exact ⟨⟨s, s', moved, moved', (alike_of_run f text moved moved' rfl).1⟩, rfl, rfl⟩

end SessionScene

end InspectionHost
