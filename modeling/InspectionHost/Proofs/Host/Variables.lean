import InspectionHost.Host.World
import InspectionHost.Proofs.Client.Variables
import InspectionHost.Proofs.Host.Launch

/-!
# What a client reads from its environment

The process of a client gets the environment of the host with the variables of the client. From its
texts it reads the value that a variable was given last, and what the host has of all others. The
client may hand on its variables in any order, and no copy of it changes what it reads.

## Main results

* `World.isProper_environment` : the environment of a host that starts in a world.
* `Host.launchClient_of_reorders` : a launch does not depend on the order of the variables.
* `Host.environment_of_launchClient` : the texts that the process of a client gets.
* `Host.environment_of_calls` : what a client reads behind any variables that it was given.
-/

namespace InspectionHost

open InspectionHost.Environment

/-- The environment of a host that starts in a world is proper if the world names its variables
without equals signs. -/
theorem World.isProper_environment (w : World)
    (plain : ∀ binding ∈ w.bindings, '=' ∉ binding.1.toList) : w.environment.IsProper := by
  refine List.foldlRecOn w.bindings _ ?_ fun e proper binding there => ?_
  · exact (isProper_empty.set (by decide) _).set (by decide) _
  · obtain ⟨name, value⟩ := binding
    cases value with
    | none => exact proper.unset name
    | some value => exact proper.set (plain _ there) value

namespace Client

variable {calls : List (String × String)}

theorem mem_bindings_withVariables {options : CallOptions} {binding : String × String}
    (there : binding ∈ ((ofOptions options).withVariables calls).additions.bindings) :
    binding ∈ calls := by
  rw [additions_withVariables] at there
  exact (mem_bindings_setAll there).resolve_left List.not_mem_nil

theorem isProper_withVariables (options : CallOptions)
    (plain : ∀ call ∈ calls, '=' ∉ call.1.toList) :
    ((ofOptions options).withVariables calls).additions.IsProper := by
  rw [additions_withVariables]
  exact isProper_empty.setAll plain

/-- Variables without NUL do not bring a NUL into a launch. -/
theorem holdsNul_withVariables (options : CallOptions)
    (named : ∀ call ∈ calls, IsName call.1 ∧ IsValue call.2) (path : String) (command : Command) :
    (((ofOptions options).withVariables calls).launch path command).holdsNul =
      ((ofOptions options).launch path command).holdsNul := by
  have clean : ∀ binding ∈ ((ofOptions options).withVariables calls).additions.bindings,
      '\x00' ∉ binding.1.toList ∧ '\x00' ∉ binding.2.toList := by
    intro binding there
    obtain ⟨name, value⟩ := named binding (mem_bindings_withVariables there)
    exact ⟨name.notNul, value⟩
  have own : ((ofOptions options).withVariables calls).options = options :=
    options_withVariables (ofOptions options) calls
  rw [Bool.eq_iff_iff, Launch.holdsNul_iff, Launch.holdsNul_iff]
  simp only [Launch.mem_texts, launch, own]
  constructor
  · rintro ⟨text, front | ⟨binding, there, rfl | rfl⟩, nul⟩
    · exact ⟨text, .inl front, nul⟩
    · exact ((clean binding there).1 nul).elim
    · exact ((clean binding there).2 nul).elim
  · rintro ⟨text, front | ⟨binding, there, -⟩, nul⟩
    · exact ⟨text, .inl front, nul⟩
    · cases there

end Client

namespace Host

variable {h k : Host} {c d : Client} {command : Command}

/-- A launch does not depend on the order of the variables. -/
theorem launchClient_of_reorders (proper : h.environment.IsProper)
    (additions : c.additions.IsProper) (reorders : c.Reorders d) (command : Command) :
    h.launchClient d command = h.launchClient c command := by
  obtain ⟨options, own⟩ := c
  obtain ⟨options', own'⟩ := d
  obtain rfl : options = options' := reorders.options
  cases found : lookUpProgram h.machine.files h.directory h.environment options.program with
  | none => simp only [launchClient, found]
  | some path =>
    have same : (Client.launch ⟨options, own'⟩ path command).start h.machine.files h.directory
        h.environment = (Client.launch ⟨options, own⟩ path command).start h.machine.files
        h.directory h.environment :=
      Launch.start_of_perm (l := Client.launch ⟨options, own⟩ path command) reorders.additions
        additions.distinct additions.plain proper
    calc h.launchClient ⟨options, own'⟩ command
      _ = h.clientLaunched ((Client.launch ⟨options, own'⟩ path command).start h.machine.files
            h.directory h.environment) := launchClient_of_found command found
      _ = h.clientLaunched ((Client.launch ⟨options, own⟩ path command).start h.machine.files
            h.directory h.environment) := congrArg _ same
      _ = h.launchClient ⟨options, own⟩ command := (launchClient_of_found command found).symm

/-- The process of a client gets the environment of the host with the variables of the client. -/
theorem environment_of_launchClient {launch : LaunchResult} {process : Nat}
    (launched : h.launchClient c command = (launch, some process, k)) :
    ∃ p, k.machine.processes[process]? = some p ∧
      p.environment = (h.environment.setAll c.additions.bindings).block := by
  cases found : lookUpProgram h.machine.files h.directory h.environment c.options.program with
  | none => simp [launchClient, found] at launched
  | some path =>
    rw [launchClient_of_found command found] at launched
    cases started : (c.launch path command).start h.machine.files h.directory h.environment with
    | error e => simp [started, clientLaunched] at launched
    | ok image =>
      rw [started] at launched
      simp only [clientLaunched, Machine.spawn, Prod.mk.injEq, Option.some.injEq] at launched
      obtain ⟨-, rfl, rfl⟩ := launched
      exact ⟨_, List.getElem?_concat_length .., Launch.environment_of_start started⟩

/-- **What a client reads from its environment.** Let a client be given any variables, one after
the other, whose names are not empty and have no equals sign and no NUL, and whose values have no
NUL. On any host:

* The process of the client reads the value that was given last under each name, and the value of
  the host under any name that was not given. The variables bring no NUL into a launch.
* The client may hand on its variables in any order: the launch is the same.
* Variables of different names can be given in any order: the client has the same variables.
* Let the client be one of several, and let it be copied. Behind any operations on all of them, it
  and its copy have the variables that they had, and each has those that were set on it alone. -/
theorem environment_of_calls {h : Host} (proper : h.environment.IsProper) (options : CallOptions)
    {calls : List (String × String)} (named : ∀ call ∈ calls, IsName call.1 ∧ IsValue call.2)
    (command : Command) :
    let c := (Client.ofOptions options).withVariables calls
    (∀ launch process k, h.launchClient c command = (launch, some process, k) →
      ∃ p, k.machine.processes[process]? = some p ∧
        ∀ name, readBlock p.environment name =
          (calls.reverse.lookup name).or (h.environment.get? name)) ∧
    (∀ path, (c.launch path command).holdsNul =
      ((Client.ofOptions options).launch path command).holdsNul) ∧
    (∀ d, c.Reorders d → h.launchClient d command = h.launchClient c command) ∧
    (∀ before name value name' value' after,
      calls = before ++ (name, value) :: (name', value') :: after → name ≠ name' →
      c.Reorders ((Client.ofOptions options).withVariables
        (before ++ (name', value') :: (name, value) :: after))) ∧
    ∀ (clients : List Client) (i : Nat) (ops : List ClientOp), clients[i]? = some c →
      let behind := Client.run clients (.copy i :: ops)
      behind[i]? = some (c.withVariables (ClientOp.callsOn i ops)) ∧
        behind[clients.length]? =
          some (c.withVariables (ClientOp.callsOn clients.length ops)) := by
  intro c
  have plain : ∀ call ∈ calls, '=' ∉ call.1.toList := fun call there => (named call there).1.plain
  have additions : c.additions.IsProper := Client.isProper_withVariables options plain
  refine ⟨?_, ?_, ?_, ?_, ?_⟩
  · intro launch process k launched
    obtain ⟨p, there, texts⟩ := environment_of_launchClient launched
    refine ⟨p, there, fun name => ?_⟩
    have given : c.additions.bindings.reverse.lookup name = calls.reverse.lookup name := by
      rw [lookup_eq_of_perm (List.reverse_perm _) (by simpa using additions.distinct)]
      refine (congrArg (·.get? name) (Client.additions_withVariables _ calls)).trans ?_
      exact (get?_setAll ..).trans Option.or_none
    rw [texts, readBlock_block (proper.setAll additions.plain), get?_setAll, given]
  · exact fun path => Client.holdsNul_withVariables options named path command
  · exact fun d reorders => launchClient_of_reorders proper additions reorders command
  · rintro before name value name' value' after rfl different
    exact Client.reorders_swap different _ value value' before after
  · intro clients i ops there behind
    have copied := Client.getElem?_copy there
    have kept := Client.getElem?_operate there (.copy i)
    exact ⟨Client.getElem?_run kept ops, Client.getElem?_run copied ops⟩

/-- A client that is given a variable twice that its host has as well. -/
theorem environment_of_calls_given_twice :
    let w : World := ⟨[], ["bin"], [("A", some "1"), ("B", some "2")]⟩
    let t : FileTree := ⟨[(["t"], .file (.machineCode ⟨none, []⟩) true)]⟩
    let h : Host := .new (.boot t []) w.environment [] (.new "" none .log)
    let calls := [("A", "3"), ("C", "=4"), ("A", "5")]
    let c := (Client.ofOptions ⟨"/t", none, none⟩).withVariables calls
    h.environment.IsProper ∧ (∀ call ∈ calls, IsName call.1 ∧ IsValue call.2) ∧
      ∃ p, (h.launchClient c (.parse "a")).2.2.machine.processes[0]? = some p ∧
        readBlock p.environment "A" = some "5" ∧ readBlock p.environment "B" = some "2" ∧
        readBlock p.environment "C" = some "=4" ∧ readBlock p.environment "D" = none := by
  intro w t h calls c
  have proper : h.environment.IsProper := w.isProper_environment (by decide)
  have named : ∀ call ∈ calls, IsName call.1 ∧ IsValue call.2 := by
    have texts : ∀ call ∈ calls, (call.1 ≠ "" ∧ '=' ∉ call.1.toList ∧ '\x00' ∉ call.1.toList) ∧
        '\x00' ∉ call.2.toList := by decide
    intro call there
    obtain ⟨⟨nonempty, plain, notNul⟩, value⟩ := texts call there
    exact ⟨⟨nonempty, plain, notNul⟩, value⟩
  have located : t.locate [] "/t" = .ok ["t"] :=
    FileTree.locate_of_steps (by decide) rfl (by simp)
  have found : lookUpProgram h.machine.files h.directory h.environment c.options.program =
      some "/t" := lookUpProgram_of_reaches (FileTree.reaches_of_locate located rfl)
  let ordered := [("A", "5"), ("B", "2"), ("C", "=4"), ("HOME", World.root.text ++ "/home"),
    ("PATH", World.root.text ++ "/bin:/usr/bin:/bin")]
  have block : (h.environment.setAll c.additions.bindings).block = ordered.map bindingText :=
    block_of_ordered (by decide +kernel) (proper.setAll (by decide +kernel)) (by decide +kernel)
  have small : Launch.isTooLarge
      ((c.launch "/t" (.parse "a")).setting h.machine.files [] h.environment) "/t"
      ["/t", "parse", "a"] = false := by
    rw [Launch.isTooLarge, Launch.setting]
    simp only [Client.launch, block]
    decide +kernel
  have enters : (c.launch "/t" (.parse "a")).enter h.machine.files h.directory = .ok [] := rfl
  have there : h.machine.files.get? ["t"] = some (.file (.machineCode ⟨none, []⟩) true) := rfl
  have started : (h.launchClient c (.parse "a")).2.1 = some 0 := by
    rw [launchClient_of_found _ found, Launch.start_of_isPath enters (by decide) located,
      Launch.imageAt_of_machineCode (by decide) there small]
    rfl
  have launched : h.launchClient c (.parse "a") = ((h.launchClient c (.parse "a")).1, some 0,
      (h.launchClient c (.parse "a")).2.2) := Prod.ext rfl (Prod.ext started rfl)
  obtain ⟨p, there, reads⟩ :=
    (environment_of_calls proper ⟨"/t", none, none⟩ named (.parse "a")).1 _ 0 _ launched
  refine ⟨proper, named, p, there, ?_, ?_, ?_, ?_⟩ <;> exact (reads _).trans (by decide +kernel)

end Host

end InspectionHost
