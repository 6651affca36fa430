import InspectionHost.Host.Basic

/-!
# Worlds

A world says what a host finds when it starts: the files in its working directory, the search
path, and further variables. Around the working directory there is a small system.

## Main definitions

* `World` : the description of a world.
* `World.host` : the host that starts in a world.
-/

namespace InspectionHost

/-- The description of a world. -/
structure World where
  /-- The files by their paths from the working directory. -/
  files : List (String × FileNode)
  /-- The directories of the search path, by their paths from the working directory. -/
  searchPath : List String
  /-- The variables that are set or removed. -/
  bindings : List (String × Option String)

namespace World

/-- The working directory. -/
def root : Place := ["srv", "inspection-host-world", "root"]

/-- A program of the system that ends with an exit code. -/
def systemProgram (code : Nat) : FileNode :=
  .file (.machineCode ⟨none, [.exit code]⟩) true

/-- The files of the system, with the home directory. -/
def systemTree : FileTree :=
  [(["usr", "bin", "sh"], .file .shell true), (["usr", "bin", "true"], systemProgram 0),
    (["usr", "bin", "false"], systemProgram 1), (["bin"], .link "usr/bin"),
    (["tmp"], .directory), (["dev", "null"], .file (.bytes []) false),
    (root ++ ["home"], .directory)].foldl (fun t (place, node) => t.put place node) ⟨[]⟩

/-- The place of a path from the working directory. -/
def place (path : String) : Place :=
  (if isAbsolutePath path.toList then [] else root) ++
    (pathNames path.toList).filter fun name => name != "" && name != "."

/-- The files of a world. -/
def tree (w : World) : FileTree :=
  w.files.foldl (fun t (path, node) => t.put (place path) node) systemTree

/-- The environment of a world. -/
def environment (w : World) : Environment :=
  let path := ":".intercalate
    (w.searchPath.map (fun path => root.text ++ "/" ++ path) ++ ["/usr/bin", "/bin"])
  let start := (Environment.empty.set "PATH" path).set "HOME" (root.text ++ "/home")
  w.bindings.foldl (fun env (name, value) =>
    match value with
    | some value => env.set name value
    | none => env.unset name) start

/-- The host that starts in a world, with a supervisor. -/
def host (w : World) (supervisor : Supervisor) : Host :=
  .new (.boot w.tree root) w.environment root supervisor

end World

end InspectionHost
