import InspectionHost.Machine.Environment
import InspectionHost.Machine.FileTree

/-!
# Looking programs up

A program is given as a path or as a name. A path that leads to anything is taken as it is.
Otherwise a path of several parts is looked for in the working directory, and a single name in
the directories of the search path, where the first file that may be executed is taken.

## Main definitions

* `pathParts`, `joinPath` : the parts of a path, and paths made of parts.
* `searchPath` : the directories of the search path.
* `lookUpProgram` : what is launched for a program.
-/

namespace InspectionHost

/-- The parts of a path: the root, a leading dot, and names. Other dots and empty names do not
count. -/
def pathParts (path : String) : List String :=
  let names := pathNames path.toList
  if isAbsolutePath path.toList then "/" :: names.filter fun name => name != "" && name != "."
  else names.zipIdx.filterMap fun (name, i) =>
    if name == "" || (name == "." && i != 0) then none else some name

/-- The path that leads on from a path by a relative path. -/
def joinPath (path next : String) : String :=
  if path.isEmpty || path.toList.getLast? == some '/' then path ++ next else path ++ "/" ++ next

/-- The path that leads on from a path by several parts. -/
def joinParts (path : String) (parts : List String) : String :=
  parts.foldl joinPath path

/-- The home directory, if the environment names one. -/
def homeDirectory? (env : Environment) : Option String :=
  (env.get? "HOME").filter fun home => !home.isEmpty

/-- A directory of the search path, where a leading tilde stands for the home directory. -/
def expandHome (env : Environment) (path : String) : String :=
  match pathParts path, homeDirectory? env with
  | "~" :: parts, some home => joinParts home parts
  | _, _ => path

/-- The texts between the colons of a text. -/
def splitColons (text : String) : List String :=
  (text.toList.foldr (fun c parts =>
    if c = ':' then [] :: parts
    else match parts with
      | part :: rest => (c :: part) :: rest
      | [] => [[c]]) [[]]).map String.ofList

/-- The directories of the search path; there are none if it is not set. -/
def searchPath (env : Environment) : List String :=
  match env.get? "PATH" with
  | some path => (splitColons path).map (expandHome env)
  | none => []

/-- The paths at which a program is looked for if its own path leads nowhere. -/
def candidatePaths (directory : Place) (env : Environment) (program : String) : List String :=
  match pathParts program with
  | first :: second :: rest =>
    if isAbsolutePath program.toList then [program]
    else if first = "." then [joinParts directory.text (second :: rest)]
    else [joinParts directory.text (first :: second :: rest)]
  | _ => (searchPath env).map fun path => joinPath path program

/-- What is launched for a program, seen from a working directory. -/
def lookUpProgram (t : FileTree) (directory : Place) (env : Environment) (program : String) :
    Option String :=
  if t.reaches directory program then some program
  else (candidatePaths directory env program).find? fun path =>
    (t.find? directory path).any FileNode.isProgram

end InspectionHost
