import InspectionHost.Host.Basic
import InspectionHost.Proofs.Machine.Launch

/-!
# A host launches what it looks up

A host looks up the program of a client or a server and launches what it has found. It tells that
the program is missing exactly if it was not found. What was found by a path is what is launched, as
long as the path leads from the working directory of the launch where it led before. The name of a
program that only stands where the host stands is found, but the launch looks for it elsewhere.

## Main definitions

* `Host.Agrees` : a host launches what it looks up.

## Main results

* `Host.agrees_of_start` : an agreement from what is told.
* `Host.launch_agrees` : the client of a call and the server of a supervisor are launched as they
  were looked up.
* `Host.found_and_not_launched` : programs that are found and not launched.
-/

namespace InspectionHost

variable {p : String}

namespace Host

/-- A host launches what it looks up. Given are the program, the launch that is planned for what is
found, whether the program is told to be missing, and how it is told what the launch loads. -/
structure Agrees (h : Host) (program : String) (plan : String → Launch) (missing : Prop)
    (told : Except IoError Image → Prop) : Prop where
  /-- The program is told to be missing if it was not found. -/
  missing_iff : missing ↔ lookUpProgram h.machine.files h.directory h.environment program = none
  /-- What is told to be missing cannot be launched from where it was looked up, on the same search
  path. -/
  exists_error : missing → ∀ entered,
    (plan program).enter h.machine.files h.directory = .ok entered →
    Launch.Keeps program h.directory entered → (plan program).hasSearchPath = false →
    Launch.isPath program = true ∨ Launch.PlainSearch h.environment →
    ∃ e, (plan program).start h.machine.files h.directory h.environment = .error e
  /-- What is found is there, and it is a path or the program as it was given. By a path that leads
  where it led before, what stands there is launched, and nothing is missing then but what the first
  line of the file names. -/
  launches : ∀ p, lookUpProgram h.machine.files h.directory h.environment program = some p →
    ∃ place node, h.machine.files.locate h.directory p = .ok place ∧
      h.machine.files.get? place = some node ∧ (Launch.isPath p = true ∨ p = program) ∧
      ∀ entered, (plan p).enter h.machine.files h.directory = .ok entered →
        Launch.isPath p = true → Launch.Keeps p h.directory entered →
        told ((plan p).imageAt h.machine.files entered h.environment place) ∧
        ((plan p).imageAt h.machine.files entered h.environment place = .error .noEntry →
          ∃ content line, node = .file (.bytes content) true ∧
            ProgramLine.ofContent? content = some line)

theorem agrees_of_start {h : Host} {program : String} {plan : String → Launch} {missing : Prop}
    {told : Except IoError Image → Prop} (planned : ∀ p, (plan p).program = p)
    (missing_iff : missing ↔
      lookUpProgram h.machine.files h.directory h.environment program = none)
    (started : ∀ p, lookUpProgram h.machine.files h.directory h.environment program = some p →
      told ((plan p).start h.machine.files h.directory h.environment)) :
    h.Agrees program plan missing told where
  missing_iff := missing_iff
  exists_error absent entered enters keeps own plain := by
    refine Launch.exists_error_of_missing ?_ enters ?_ own ?_ <;> rw [planned]
    · exact missing_iff.1 absent
    · exact keeps
    · exact plain
  launches p found := by
    obtain ⟨reached, shape⟩ := reaches_of_found found
    obtain ⟨place, node, located, there⟩ := FileTree.exists_place_of_reaches reached
    refine ⟨place, node, located, there, shape, fun entered enters path keeps => ⟨?_, ?_⟩⟩
    · rw [← planned p] at path
      have same : h.machine.files.locate entered (plan p).program = .ok place := by
        rw [planned, keeps.locate_eq]
        exact located
      rw [← Launch.start_of_isPath enters path same]
      exact started p found
    · intro absent
      obtain ⟨content, line, file, named⟩ := Launch.exists_programLine_of_noEntry absent
      exact ⟨content, line, Option.some.inj (there.symm.trans file), named⟩

/-- How the launch of a client goes by what it loads. -/
def clientLaunched (h : Host) : Except IoError Image → LaunchResult × Option Nat × Host
  | .error error => (.refused error, none, h)
  | .ok image =>
    let (process, machine) := h.machine.spawn image false
    (.started, some process, { h with machine })

/-- How the launch of the server goes by what it loads. -/
def serverLaunched (h : Host) (s : Supervisor) : Except IoError Image →
    Except Failure (Nat × Machine)
  | .error error => .error (.launch s.program error)
  | .ok image => .ok (h.machine.spawn image true)

theorem launchClient_of_found {h : Host} {client : Client} (command : Command)
    (found : lookUpProgram h.machine.files h.directory h.environment client.options.program =
      some p) :
    h.launchClient client command = h.clientLaunched
      ((client.launch p command).start h.machine.files h.directory h.environment) := by
  unfold launchClient
  rw [found]
  cases hstart : (client.launch p command).start h.machine.files h.directory h.environment with
  | error e => simp only [hstart, clientLaunched]
  | ok image => simp only [hstart, clientLaunched]; rfl

theorem launchClient_of_start_error {h : Host} {client : Client} (command : Command) {e : IoError}
    (found : lookUpProgram h.machine.files h.directory h.environment client.options.program =
      some p)
    (failed : (client.launch p command).start h.machine.files h.directory h.environment =
      .error e) : (h.launchClient client command).1 = .refused e := by
  rw [launchClient_of_found command found, failed]
  rfl

theorem launchServer_of_found {h : Host} {s : Supervisor}
    (found : lookUpProgram h.machine.files h.directory h.environment s.program = some p) :
    h.launchServer s = h.serverLaunched s
      ((s.launch p).start h.machine.files h.directory h.environment) := by
  unfold launchServer
  rw [found]
  cases hstart : (s.launch p).start h.machine.files h.directory h.environment with
  | error e => simp only [hstart, serverLaunched]
  | ok image => simp only [hstart, serverLaunched]; rfl

theorem launchClient_eq_notFound_iff (h : Host) (client : Client) (command : Command) :
    (h.launchClient client command).1 = .notFound ↔
      lookUpProgram h.machine.files h.directory h.environment client.options.program = none := by
  cases found : lookUpProgram h.machine.files h.directory h.environment client.options.program with
  | none => simp [launchClient, found]
  | some p =>
    rw [launchClient_of_found command found]
    cases (client.launch p command).start h.machine.files h.directory h.environment <;>
      simp [clientLaunched]

theorem launchServer_eq_notFound_iff (h : Host) (s : Supervisor) :
    h.launchServer s = .error (.notFound s.program) ↔
      lookUpProgram h.machine.files h.directory h.environment s.program = none := by
  cases found : lookUpProgram h.machine.files h.directory h.environment s.program with
  | none => simp [launchServer, found]
  | some p =>
    rw [launchServer_of_found found]
    cases (s.launch p).start h.machine.files h.directory h.environment <;>
      simp [serverLaunched, Failure.notFound, Failure.launch]

/-- **Looking up and launching.** The client of a call and the server of a supervisor are told to be
missing exactly if they were not found, and then they cannot be launched. What was found is launched
if it was found by a path that begins at the root, or by a path and the launch stays where the host
stands. -/
theorem launch_agrees (h : Host) (client : Client) (command : Command) (s : Supervisor) :
    h.Agrees client.options.program (fun p => client.launch p command)
        ((h.launchClient client command).1 = .notFound)
        (fun image => h.launchClient client command = h.clientLaunched image) ∧
      h.Agrees s.program s.launch (h.launchServer s = .error (.notFound s.program))
        (fun image => h.launchServer s = h.serverLaunched s image) :=
  ⟨agrees_of_start (fun _ => rfl) (h.launchClient_eq_notFound_iff client command)
      fun _ found => launchClient_of_found command found,
    agrees_of_start (fun _ => rfl) (h.launchServer_eq_notFound_iff s)
      fun _ found => launchServer_of_found found⟩

/-- A server that is found by a path from the root and launched in a directory. -/
theorem launch_agrees_from_root :
    let t : FileTree := ⟨[(["d"], .directory), (["t"], .file (.machineCode ⟨none, []⟩) true)]⟩
    let s : Supervisor := .new "/t" (some "/d") .log
    let h : Host := .new (.boot t []) ⟨[]⟩ [] s
    ∃ place node, h.machine.files.locate h.directory "/t" = .ok place ∧
      h.machine.files.get? place = some node ∧
      h.launchServer s =
        h.serverLaunched s ((s.launch "/t").imageAt h.machine.files ["d"] h.environment place) := by
  intro t s h
  have program : t.locate [] "/t" = .ok ["t"] :=
    FileTree.locate_of_steps (by decide) rfl (by simp)
  have directory : t.locate [] "/d" = .ok ["d"] :=
    FileTree.locate_of_steps (by decide) rfl (by simp)
  have found : lookUpProgram t [] ⟨[]⟩ "/t" = some "/t" :=
    lookUpProgram_of_reaches (FileTree.reaches_of_locate program rfl)
  have enters : (s.launch "/t").enter t [] = .ok ["d"] := by
    change t.enter [] "/d" = _
    rw [FileTree.enter, directory]
    rfl
  obtain ⟨place, node, located, there, -, launched⟩ :=
    (launch_agrees h (.ofOptions ⟨"t", none, none⟩) (.parse "a") s).2.launches "/t" found
  exact ⟨place, node, located, there, (launched ["d"] enters (by decide) (.inl (by decide))).1⟩

/-- Clients that are found where the host stands and are not launched: the name of one does not
stand on the search path, and the path of the other leads nowhere from the directory that is
entered. -/
theorem found_and_not_launched :
    let t : FileTree := ⟨[(["d"], .directory), (["d", "t"], .file (.machineCode ⟨none, []⟩) true)]⟩
    let h : Host := .new (.boot t []) ⟨[("PATH", "/b")]⟩ ["d"] (.new "" none .log)
    (lookUpProgram h.machine.files h.directory h.environment "t" = some "t" ∧
        (h.launchClient (.ofOptions ⟨"t", none, none⟩) (.parse "a")).1 = .refused .noEntry) ∧
      lookUpProgram h.machine.files h.directory h.environment "./t" = some "./t" ∧
        (h.launchClient (.ofOptions ⟨"./t", none, some "/"⟩) (.parse "a")).1 =
          .refused .noEntry := by
  intro t h
  let named : Client := .ofOptions ⟨"t", none, none⟩
  let placed : Client := .ofOptions ⟨"./t", none, some "/"⟩
  have byName : t.locate ["d"] "t" = .ok ["d", "t"] :=
    FileTree.locate_of_steps (by decide) rfl (by simp)
  have byPath : t.locate ["d"] "./t" = .ok ["d", "t"] :=
    FileTree.locate_of_steps (by decide) rfl (by simp)
  have root : t.locate ["d"] "/" = .ok [] :=
    FileTree.locate_of_steps (by decide) rfl (by simp)
  have searched : t.locate ["d"] "/b/t" = .error .noEntry :=
    FileTree.locate_of_steps (by decide) rfl (mt Except.error.inj (by decide))
  have moved : t.locate [] "./t" = .error .noEntry :=
    FileTree.locate_of_steps (by decide) rfl (mt Except.error.inj (by decide))
  have foundName :
      lookUpProgram h.machine.files h.directory h.environment named.options.program = some "t" :=
    lookUpProgram_of_reaches (FileTree.reaches_of_locate byName rfl)
  have foundPath :
      lookUpProgram h.machine.files h.directory h.environment placed.options.program =
        some "./t" :=
    lookUpProgram_of_reaches (FileTree.reaches_of_locate byPath rfl)
  have stays : (named.launch "t" (.parse "a")).enter t ["d"] = .ok ["d"] := rfl
  have enters : (placed.launch "./t" (.parse "a")).enter t ["d"] = .ok [] := by
    change t.enter ["d"] "/" = _
    rw [FileTree.enter, root]
    rfl
  refine ⟨⟨foundName, ?_⟩, foundPath, ?_⟩
  · exact launchClient_of_start_error (.parse "a") foundName
      (Launch.start_of_locate_error stays (by decide) (by decide) (by decide) (by decide) searched)
  · exact launchClient_of_start_error (.parse "a") foundPath
      (Launch.start_of_locate_error enters (by decide) (by decide) (by decide) (by decide) moved)

end Host

end InspectionHost
