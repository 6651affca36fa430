import InspectionHost.Machine.Launch
import InspectionHost.Proofs.Machine.Paths

/-!
# Programs that are found and programs that are launched

A program is looked up where the host stands, and then on the search path. What is found is launched
by its path, where the launch enters the working directory first, or by its name, which is looked
for on the search path once more. So the file that was found by a path is the file that is loaded
if the path begins at the root or the launch stays where the host stands. A name that is found in
the working directory of the host is launched from the search path alone.

## Main definitions

* `Launch.enter` : the directory that a launch enters.
* `Launch.imageAt` : what a launch loads whose program is at a place.
* `Launch.Keeps` : a path that leads where it led before a directory was entered.
* `Launch.PlainSearch` : a search path whose directories are meant as they are written.

## Main results

* `reaches_of_found` : what is found is there.
* `Launch.start_of_isPath` : what is launched by a path.
* `Launch.exists_programLine_of_noEntry` : what a launch misses by a path that leads to a place.
* `Launch.exists_error_of_missing` : what is not found cannot be launched.
-/

namespace InspectionHost

variable {t : FileTree} {directory : Place} {env : Environment} {program p : String}

/-! ### What is found -/

theorem Launch.isPath_iff (path : String) : isPath path = true ↔ '/' ∈ path.toList := by
  simp [isPath]

theorem isPath_joinPath {path : String} (nonempty : path ≠ "") (next : String) :
    Launch.isPath (joinPath path next) = true := by
  rw [Launch.isPath_iff, joinPath]
  split
  · next ends =>
    have slash : path.toList.getLast? = some '/' := by simpa [nonempty] using ends
    rw [String.toList_append]
    exact List.mem_append_left _ (List.mem_of_getLast? slash)
  · simp

theorem isPath_joinParts (parts : List String) {path : String} (h : Launch.isPath path = true) :
    Launch.isPath (joinParts path parts) = true := by
  induction parts generalizing path with
  | nil => exact h
  | cons part rest ih =>
    refine ih (isPath_joinPath ?_ part)
    rintro rfl
    simp [Launch.isPath] at h

theorem isPath_text (place : Place) : Launch.isPath place.text = true := by
  rw [Launch.isPath_iff, Place.text]
  cases place with
  | nil => simp
  | cons name rest => simp [String.toList_join]

/-- A program is looked for at paths, and a directory without a name leaves the program as it is. -/
theorem isPath_of_mem_candidatePaths (h : p ∈ candidatePaths directory env program) :
    Launch.isPath p = true ∨ p = program := by
  have search (h : p ∈ (searchPath env).map fun path => joinPath path program) :
      Launch.isPath p = true ∨ p = program := by
    obtain ⟨path, -, rfl⟩ := List.mem_map.1 h
    by_cases nameless : path = ""
    · subst nameless
      exact .inr (by simp [joinPath])
    · exact .inl (isPath_joinPath nameless program)
  unfold candidatePaths at h
  split at h
  · split at h
    · exact .inr (List.mem_singleton.1 h)
    · split at h <;> obtain rfl := List.mem_singleton.1 h <;>
        exact .inl (isPath_joinParts _ (isPath_text directory))
  · exact search h

theorem lookUpProgram_of_reaches (reached : t.reaches directory program = true) :
    lookUpProgram t directory env program = some program :=
  if_pos reached

/-- What is found is there, and it is a path or the program as it was given. -/
theorem reaches_of_found (found : lookUpProgram t directory env program = some p) :
    t.reaches directory p = true ∧ (Launch.isPath p = true ∨ p = program) := by
  unfold lookUpProgram at found
  split at found
  · next reached =>
    obtain rfl := Option.some.inj found
    exact ⟨reached, .inr rfl⟩
  · have there := List.find?_some found
    refine ⟨?_, isPath_of_mem_candidatePaths (List.mem_of_find?_eq_some found)⟩
    cases hfind : t.find? directory p with
    | none => simp [hfind] at there
    | some node => simp [FileTree.reaches, hfind]

/-- A name has at most one part, which is the name. -/
theorem pathParts_of_notMem (single : '/' ∉ program.toList) :
    pathParts program = [] ∨ pathParts program = [program] := by
  have relative : isAbsolutePath program.toList = false := by
    rw [isAbsolutePath]
    cases hcs : program.toList with
    | nil => rfl
    | cons c cs =>
      have first : c ≠ '/' := by
        rintro rfl
        simp [hcs] at single
      simpa using first
  simp only [pathParts, pathNames_of_notMem single, relative, String.ofList_toList]
  by_cases nameless : program = "" <;> simp [nameless]

theorem candidatePaths_of_notMem (single : '/' ∉ program.toList) :
    candidatePaths directory env program =
      (searchPath env).map fun path => joinPath path program := by
  rcases pathParts_of_notMem single with parts | parts <;> simp only [candidatePaths, parts]

/-- Nothing that can be executed stands where a program was looked for that was not found. -/
theorem isProgram_of_missing (missing : lookUpProgram t directory env program = none) :
    t.reaches directory program = false ∧
      ∀ path ∈ candidatePaths directory env program,
        (t.find? directory path).any FileNode.isProgram = false := by
  unfold lookUpProgram at missing
  split at missing
  · contradiction
  · next unreached =>
    refine ⟨by simpa using unreached, fun path there => ?_⟩
    simpa using List.find?_eq_none.1 missing path there

namespace Launch

/-! ### What is launched -/

/-- The directory that a launch enters. -/
def enter (l : Launch) (t : FileTree) (directory : Place) : Except IoError Place :=
  match l.directory with
  | none => .ok directory
  | some path => t.enter directory path

/-- Where a launch looks for files that has entered a directory. -/
def setting (l : Launch) (t : FileTree) (entered : Place) (env : Environment) : Setting :=
  ⟨t, entered, l.arguments, (env.setAll l.additions).block⟩

/-- The image of a program that is loaded. -/
def Setting.image (s : Setting) (loaded : Script × List String) : Image :=
  ⟨loaded.1, loaded.2, s.environment, s.directory⟩

/-- Load the program at a place, to which a path leads. -/
def loadAt (s : Setting) (path : String) (place : Place) : Except IoError (Script × List String) :=
  match s.files.get? place with
  | some (.file body true) =>
    if isTooLarge s path (path :: s.arguments) then .error .argumentListTooLong
    else interpret s s.arguments path interpreterLimit body
  | _ => .error .permissionDenied

theorem load_eq (s : Setting) (path : String) : load s path path s.arguments =
    match s.files.locate s.directory path with
    | .ok place => loadAt s path place
    | .error e => .error e := by
  cases located : s.files.locate s.directory path with
  | error e => simp only [load, openProgram, located, bind, Except.bind]
  | ok place =>
    cases there : s.files.get? place with
    | none => simp only [load, openProgram, loadAt, located, there, bind, Except.bind]
    | some node =>
      cases node with
      | directory | link target =>
        simp only [load, openProgram, loadAt, located, there, bind, Except.bind]
      | file body executable =>
        cases executable with
        | false | true => simp only [load, openProgram, loadAt, located, there, bind, Except.bind]

variable {l : Launch} {entered : Place}

/-- Whether a launch hands a NUL to the system. -/
def holdsNul (l : Launch) : Bool :=
  l.texts.any fun text => decide ('\x00' ∈ text.toList)

/-- A launch without a NUL that has entered its directory loads the first program that it finds. -/
theorem start_eq (enters : l.enter t directory = .ok entered) (nonempty : l.program ≠ "") :
    l.start t directory env =
      if l.holdsNul then .error .nulInArgument
      else (loadFirst (l.setting t entered env) l.program l.hasSearchPath .noEntry
        (paths (env.setAll l.additions) l.program)).map (l.setting t entered env).image := by
  have named : l.program.isEmpty = false := by simpa using nonempty
  by_cases nul : l.holdsNul = true
  · rw [if_pos nul]
    have texts : (l.texts.any fun text => decide ('\x00' ∈ text.toList)) = true := nul
    simp only [start, texts, if_true, bind, Except.bind]
  · have texts : (l.texts.any fun text => decide ('\x00' ∈ text.toList)) = false := by
      simpa [holdsNul] using nul
    rw [if_neg nul]
    cases hdirectory : l.directory with
    | none =>
      obtain rfl : directory = entered := by simpa [enter, hdirectory] using enters
      simp only [start, texts, named, hdirectory, bind, Except.bind, setting, Bool.false_eq_true,
        if_false]
      cases loadFirst _ _ _ _ _ <;> rfl
    | some path =>
      have there : t.enter directory path = .ok entered := by
        simpa [enter, hdirectory] using enters
      simp only [start, texts, named, hdirectory, there, bind, Except.bind, setting,
        Bool.false_eq_true, if_false]
      cases loadFirst _ _ _ _ _ <;> rfl

theorem loadFirst_singleton (s : Setting) (name path : String) :
    loadFirst s name false .noEntry [path] = load s name path s.arguments := by
  cases loaded : load s name path s.arguments with
  | ok found => simp only [loadFirst, loadOrRead, loaded]
  | error e =>
    simp only [loadFirst, loadOrRead, loaded, Bool.false_and, Bool.false_eq_true, if_false]
    split <;> rfl

/-- A launch whose program can only be at a path that leads nowhere. -/
theorem start_of_locate_error {e : IoError} {path : String}
    (enters : l.enter t directory = .ok entered) (nonempty : l.program ≠ "")
    (plain : l.holdsNul = false) (search : l.hasSearchPath = false)
    (alone : paths (env.setAll l.additions) l.program = [path])
    (lost : t.locate entered path = .error e) : l.start t directory env = .error e := by
  have loaded : load (l.setting t entered env) l.program path l.arguments = .error e := by
    simp only [load, openProgram, setting, lost, bind, Except.bind]
  rw [start_eq enters nonempty, plain, search, alone, loadFirst_singleton]
  exact congrArg (Except.map _) loaded

/-- What a launch loads whose program is at a place, or why it cannot. -/
def imageAt (l : Launch) (t : FileTree) (entered : Place) (env : Environment) (place : Place) :
    Except IoError Image :=
  if l.holdsNul then .error .nulInArgument
  else (loadAt (l.setting t entered env) l.program place).map (l.setting t entered env).image

theorem imageAt_of_machineCode {place : Place} {script : Script} (plain : l.holdsNul = false)
    (there : t.get? place = some (.file (.machineCode script) true))
    (small : isTooLarge (l.setting t entered env) l.program (l.program :: l.arguments) = false) :
    l.imageAt t entered env place =
      .ok ((l.setting t entered env).image (script, l.arguments)) := by
  have loaded : loadAt (l.setting t entered env) l.program place = .ok (script, l.arguments) := by
    have there : (l.setting t entered env).files.get? place =
        some (.file (.machineCode script) true) := there
    have small : isTooLarge (l.setting t entered env) l.program
        (l.program :: (l.setting t entered env).arguments) = false := small
    simp only [loadAt, there, small, interpret, Bool.false_eq_true, if_false]
    rfl
  rw [imageAt, plain, loaded]
  rfl

/-- A launch by a path loads what the path leads to from the directory that is entered. -/
theorem start_of_isPath {place : Place} (enters : l.enter t directory = .ok entered)
    (path : isPath l.program = true) (located : t.locate entered l.program = .ok place) :
    l.start t directory env = l.imageAt t entered env place := by
  have nonempty : l.program ≠ "" := by
    intro empty
    simp [empty, isPath] at path
  have search : l.hasSearchPath = false := by simp [hasSearchPath, path]
  have alone : paths (env.setAll l.additions) l.program = [l.program] := if_pos path
  have loaded : load (l.setting t entered env) l.program l.program l.arguments =
      loadAt (l.setting t entered env) l.program place := by
    refine (load_eq (l.setting t entered env) l.program).trans ?_
    simp only [setting, located]
  rw [start_eq enters nonempty, search, alone, loadFirst_singleton, imageAt]
  exact congrArg _ (congrArg _ loaded)

/-- The path of a program leads where it led before a launch entered its directory, since it begins
at the root or the launch stayed. -/
def Keeps (program : String) (directory entered : Place) : Prop :=
  isAbsolutePath program.toList = true ∨ entered = directory

theorem Keeps.locate_eq (keeps : Keeps program directory entered) (t : FileTree) :
    t.locate entered program = t.locate directory program := by
  rcases keeps with absolute | rfl
  · exact FileTree.locate_of_absolute absolute entered directory
  · rfl

/-- When the program at a place is loaded and something is missing, it is what the first line of the
file names. -/
theorem exists_programLine_of_loadAt {s : Setting} {path : String} {place : Place}
    (missing : loadAt s path place = .error .noEntry) :
    ∃ content line, s.files.get? place = some (.file (.bytes content) true) ∧
      ProgramLine.ofContent? content = some line := by
  unfold loadAt at missing
  split at missing
  · next body there =>
    split at missing
    · exact absurd (Except.error.inj missing) (by decide)
    · cases body with
      | script script | machineCode script => simp [interpret, interpreterLimit] at missing
      | shell => simp [interpret] at missing
      | bytes content =>
        cases named : ProgramLine.ofContent? content with
        | none =>
          simp only [interpret, named] at missing
          exact absurd (Except.error.inj missing) (by decide)
        | some line => exact ⟨content, line, there, named⟩
  · exact absurd (Except.error.inj missing) (by decide)

/-- When a launch with a program at a place misses something, it is what the first line of the file
names. -/
theorem exists_programLine_of_noEntry {place : Place}
    (missing : l.imageAt t entered env place = .error .noEntry) :
    ∃ content line, t.get? place = some (.file (.bytes content) true) ∧
      ProgramLine.ofContent? content = some line := by
  unfold imageAt at missing
  split at missing
  · exact absurd (Except.error.inj missing) (by decide)
  · cases loaded : loadAt (l.setting t entered env) l.program place with
    | ok found => simp [loaded, Except.map] at missing
    | error e =>
      obtain rfl : e = .noEntry := by simpa [loaded, Except.map] using missing
      exact exists_programLine_of_loadAt loaded

/-! ### What is not launched -/

theorem exists_error_of_openProgram {s : Setting} {path : String}
    (h : (s.files.find? s.directory path).any FileNode.isProgram = false) :
    ∃ e, openProgram s path = .error e := by
  unfold openProgram
  split
  · exact ⟨_, rfl⟩
  · next place located =>
    split
    · next body there => simp [FileTree.find?, located, there, FileNode.isProgram] at h
    · exact ⟨_, rfl⟩

theorem exists_error_of_loadFirst {s : Setting} {name : String} {qs : List String}
    (closed : ∀ q ∈ qs, (s.files.find? s.directory q).any FileNode.isProgram = false)
    (error : IoError) : ∃ e, loadFirst s name false error qs = .error e := by
  induction qs generalizing error with
  | nil => exact ⟨error, rfl⟩
  | cons q rest ih =>
    obtain ⟨first, later⟩ := List.forall_mem_cons.1 closed
    obtain ⟨e, opened⟩ := exists_error_of_openProgram first
    have loaded : load s name q s.arguments = .error e := by
      simp only [load, opened, bind, Except.bind]
    simp only [loadFirst, loadOrRead, loaded, Bool.false_and, Bool.false_eq_true, if_false]
    split
    · exact ih later _
    · exact ⟨e, rfl⟩

/-- A directory that is looked at is one of those given, or none. -/
theorem mem_of_mem_usableDirectories {limit : Nat} {path : String} {paths : List String}
    (h : path ∈ usableDirectories limit paths) : path = "" ∨ path ∈ paths := by
  fun_induction usableDirectories limit paths with
  | case1 => simp at h
  | case2 only short => exact .inr h
  | case3 only long => simp at h
  | case4 first rest more ih =>
    rcases List.mem_cons.1 h with hfirst | hrest
    · split at hfirst
      · exact .inr (hfirst ▸ List.mem_cons_self)
      · exact .inl hfirst
    · exact (ih hrest).imp id (List.mem_cons_of_mem _)

/-- Behind a path that ends in a slash a second slash leads to nothing else. -/
theorem isProgram_of_slash {path : String} (nonempty : path ≠ "")
    (h : (t.find? directory (joinPath path program)).any FileNode.isProgram = false) :
    (t.find? directory (path ++ "/" ++ program)).any FileNode.isProgram = false := by
  unfold joinPath at h
  split at h
  · next ends =>
    have slash : path.toList.getLast? = some '/' := by simpa [nonempty] using ends
    obtain ⟨front, hfront⟩ := List.getLast?_eq_some_iff.1 slash
    obtain rfl : path = String.ofList front ++ "/" := by
      rw [← String.toList_inj]
      simpa using hfront
    cases located : t.locate directory (String.ofList front ++ "/" ++ "/" ++ program) with
    | error e => simp [FileTree.find?, located]
    | ok place =>
      have same := FileTree.locate_of_double_slash located
      simpa [FileTree.find?, located, same] using h
  · exact h

/-- The search path is set, and none of its directories stands for the home directory. -/
def PlainSearch (env : Environment) : Prop :=
  ∃ search, env.get? "PATH" = some search ∧
    ∀ path ∈ splitColons search, expandHome env path = path

/-- A launch with the search path of a look-up finds no program where the look-up finds none. -/
theorem isProgram_of_paths {env' : Environment}
    (missing : lookUpProgram t directory env program = none)
    (plain : isPath program = true ∨
      PlainSearch env ∧ env'.get? "PATH" = env.get? "PATH") :
    ∀ q ∈ paths env' program, (t.find? directory q).any FileNode.isProgram = false := by
  obtain ⟨unreached, closed⟩ := isProgram_of_missing missing
  have unopened : (t.find? directory program).any FileNode.isProgram = false := by
    have nothing : t.find? directory program = none := by simpa [FileTree.reaches] using unreached
    rw [nothing]
    rfl
  intro q hq
  by_cases path : isPath program = true
  · obtain rfl : q = program := by simpa [paths, path] using hq
    exact unopened
  · obtain ⟨⟨search, set, literal⟩, same⟩ := plain.resolve_left path
    have single : '/' ∉ program.toList := by rwa [isPath_iff] at path
    simp only [paths, if_neg path, same, set, Option.getD_some] at hq
    obtain ⟨folder, usable, rfl⟩ := List.mem_map.1 hq
    by_cases here : folder.isEmpty = true
    · rw [if_pos here]
      exact unopened
    · rw [if_neg here]
      have nonempty : folder ≠ "" := by simpa using here
      have searched : folder ∈ searchPath env := by
        simp only [searchPath, set]
        have there := (mem_of_mem_usableDirectories usable).resolve_left nonempty
        exact List.mem_map.2 ⟨folder, there, literal folder there⟩
      refine isProgram_of_slash nonempty (closed _ ?_)
      rw [candidatePaths_of_notMem single]
      exact List.mem_map_of_mem searched

/-- Without a search path of its own, a launch by a name has the search path of the host. -/
theorem get?_path_of_hasSearchPath (own : l.hasSearchPath = false)
    (name : ¬ isPath l.program = true) (env : Environment) :
    (env.setAll l.additions).get? "PATH" = env.get? "PATH" := by
  have unset : l.additions.reverse.lookup "PATH" = none := by
    rw [List.lookup_eq_none_iff]
    intro addition there
    simp only [hasSearchPath, name, Bool.not_false, Bool.true_and, List.any_eq_false] at own
    have other : ¬ addition.1 = "PATH" := by simpa using own addition (List.mem_reverse.1 there)
    exact bne_iff_ne.2 (Ne.symm other)
  rw [Environment.get?_setAll, unset, Option.none_or]

theorem exists_error_of_empty (enters : l.enter t directory = .ok entered)
    (empty : l.program = "") : ∃ e, l.start t directory env = .error e := by
  by_cases nul : (l.texts.any fun text => decide ('\x00' ∈ text.toList)) = true
  · exact ⟨.nulInArgument, by simp only [start, nul, if_true, bind, Except.bind]⟩
  · have nameless : l.program.isEmpty = true := by simpa using empty
    refine ⟨.noEntry, ?_⟩
    cases hdirectory : l.directory with
    | none => simp only [start, nul, nameless, hdirectory, bind, Except.bind, if_true]; rfl
    | some path =>
      have there : t.enter directory path = .ok entered := by
        simpa [enter, hdirectory] using enters
      simp only [start, nul, nameless, hdirectory, there, bind, Except.bind, if_true]; rfl

/-- What is not found cannot be launched from where it was looked up. -/
theorem exists_error_of_missing (missing : lookUpProgram t directory env l.program = none)
    (enters : l.enter t directory = .ok entered) (keeps : Keeps l.program directory entered)
    (own : l.hasSearchPath = false) (plain : isPath l.program = true ∨ PlainSearch env) :
    ∃ e, l.start t directory env = .error e := by
  by_cases nameless : l.program = ""
  · exact exists_error_of_empty enters nameless
  have unopened : ∀ q ∈ paths (env.setAll l.additions) l.program,
      (t.find? directory q).any FileNode.isProgram = false := by
    refine isProgram_of_paths missing ?_
    by_cases path : isPath l.program = true
    · exact .inl path
    · exact .inr ⟨plain.resolve_left path, get?_path_of_hasSearchPath own path env⟩
  have closed : ∀ q ∈ paths (env.setAll l.additions) l.program,
      (t.find? entered q).any FileNode.isProgram = false := by
    rcases keeps with absolute | rfl
    · have path : isPath l.program = true := by
        rw [isPath_iff]
        exact List.mem_of_mem_head? (eq_of_beq absolute)
      have alone : paths (env.setAll l.additions) l.program = [l.program] := if_pos path
      intro q hq
      have same : t.find? entered q = t.find? directory q := by
        obtain rfl : q = l.program := by simpa [alone] using hq
        simp only [FileTree.find?, FileTree.locate_of_absolute absolute entered directory]
      rw [same]
      exact unopened q hq
    · exact unopened
  rw [start_eq enters nameless, own]
  split
  · exact ⟨_, rfl⟩
  · obtain ⟨e, unloaded⟩ : ∃ e, loadFirst (l.setting t entered env) l.program false .noEntry
        (paths (env.setAll l.additions) l.program) = .error e :=
      exists_error_of_loadFirst closed .noEntry
    exact ⟨e, by rw [unloaded]; rfl⟩

end Launch

end InspectionHost
