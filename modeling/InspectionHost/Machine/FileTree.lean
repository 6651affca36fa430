import InspectionHost.IoError
import InspectionHost.Machine.Script

/-!
# File trees

A tree of directories, files and symbolic links. A place is the list of names from the root; a
path is a text that leads from one place to another, over links and upwards steps. What a path
leads to, or why it leads nowhere, is found by a walk name by name.

## Main definitions

* `FileNode`, `FileTree` : what stands at places.
* `FileTree.walk` : the place that a list of names leads to.
* `FileTree.locate` : the place that a path leads to.
* `FileTree.read`, `FileTree.touch`, `FileTree.put` : the operations on files.
-/

namespace InspectionHost

/-- What a file holds. -/
inductive FileBody where
  | bytes (content : List UInt8)
  /-- A script, which the shell reads. -/
  | script (script : Script)
  /-- A program that the system runs by itself. -/
  | machineCode (script : Script)
  /-- The shell. -/
  | shell
  deriving Repr

/-- What stands at a place. -/
inductive FileNode where
  | directory
  | file (body : FileBody) (executable : Bool)
  | link (target : String)
  deriving Repr

namespace FileNode

/-- Whether a directory stands here. -/
def isDirectory : FileNode → Bool
  | directory => true
  | _ => false

/-- Whether a file stands here that may be executed. -/
def isProgram : FileNode → Bool
  | file _ executable => executable
  | _ => false

end FileNode

/-- A place of a file tree: the names that lead to it from the root. -/
abbrev Place := List String

namespace Place

/-- The text of a place: the absolute path without links and upwards steps. -/
def text (p : Place) : String :=
  if p.isEmpty then "/" else String.join (p.map fun name => "/" ++ name)

end Place

/-- The names of a path between its slashes. A slash in front or at the end, or a second slash
behind a slash, gives an empty name. -/
def pathNames (path : List Char) : List String :=
  (path.foldr (fun c names =>
    if c = '/' then [] :: names
    else match names with
      | name :: rest => (c :: name) :: rest
      | [] => [[c]]) [[]]).map String.ofList

/-- Whether a path begins at the root. -/
def isAbsolutePath (path : List Char) : Bool :=
  path.head? == some '/'

/-- What stands at places, the root aside. -/
structure FileTree where
  entries : List (Place × FileNode)
  deriving Repr

namespace FileTree

/-- The longest name in bytes. -/
def nameLimit : Nat := 255

/-- The shortest path in bytes that is too long. -/
def pathLimit : Nat := 4096

/-- How many links a walk follows. -/
def linkLimit : Nat := 40

/-- What stands at a place. -/
def get? (t : FileTree) (place : Place) : Option FileNode :=
  if place.isEmpty then some .directory
  else (t.entries.find? fun entry => entry.1 == place).map Prod.snd

/-- The place that names lead to from a place, where at most `links` links are followed. Every
name needs a directory to start from; an empty name and a dot stay there, and two dots lead up. -/
def walk (t : FileTree) (links : Nat) (place : Place) : List String → Except IoError Place
  | [] => .ok place
  | name :: rest =>
    if !(t.get? place).any FileNode.isDirectory then .error .notADirectory
    else if name = "" ∨ name = "." then walk t links place rest
    else if name = ".." then walk t links place.dropLast rest
    else if nameLimit < name.utf8ByteSize then .error .nameTooLong
    else match t.get? (place ++ [name]) with
      | none => .error .noEntry
      | some (.link target) =>
        match links with
        | 0 => .error .tooManyLinks
        | links + 1 =>
          walk t links (if isAbsolutePath target.toList then [] else place)
            (pathNames target.toList ++ rest)
      | some _ => walk t links (place ++ [name]) rest
termination_by names => (links, names.length)

/-- The place that a path leads to from a directory. -/
def locate (t : FileTree) (directory : Place) (path : String) : Except IoError Place :=
  if path.isEmpty then .error .noEntry
  else if '\x00' ∈ path.toList then .error .nulInFileName
  else if pathLimit ≤ path.utf8ByteSize then .error .nameTooLong
  else t.walk linkLimit (if isAbsolutePath path.toList then [] else directory)
    (pathNames path.toList)

/-- What a path leads to from a directory. -/
def find? (t : FileTree) (directory : Place) (path : String) : Option FileNode :=
  match t.locate directory path with
  | .ok place => t.get? place
  | .error _ => none

/-- Whether a path leads to anything. -/
def reaches (t : FileTree) (directory : Place) (path : String) : Bool :=
  (t.find? directory path).isSome

/-- The directory that a path leads to. -/
def enter (t : FileTree) (directory : Place) (path : String) : Except IoError Place :=
  match t.locate directory path with
  | .error e => .error e
  | .ok place =>
    if (t.get? place).any FileNode.isDirectory then .ok place else .error .notADirectory

/-- What the file holds that a path leads to. -/
def read (t : FileTree) (directory : Place) (path : String) : Except IoError FileBody :=
  match t.locate directory path with
  | .error e => .error e
  | .ok place =>
    match t.get? place with
    | some (.file body _) => .ok body
    | some .directory => .error .isADirectory
    | some (.link _) => .error .tooManyLinks
    | none => .error .noEntry

/-- The directories above a place, as far as they are missing. -/
def missingParents (t : FileTree) (place : Place) : List (Place × FileNode) :=
  ((List.range place.length).map place.take).filterMap fun above =>
    if (t.get? above).isSome then none else some (above, .directory)

/-- Put something at a place, in the place of what stands there, and make the directories above
it. -/
def put (t : FileTree) (place : Place) (node : FileNode) : FileTree :=
  ⟨(place, node) :: (t.entries.filter (·.1 != place) ++ t.missingParents place)⟩

/-- Make an empty file where a path leads to nothing, if its directory exists. -/
def touch (t : FileTree) (directory : Place) (path : String) : FileTree :=
  match (pathNames path.toList).reverse with
  | [] => t
  | name :: above =>
    if t.reaches directory path then t
    else
      match t.walk linkLimit (if isAbsolutePath path.toList then [] else directory)
        above.reverse with
      | .error _ => t
      | .ok parent =>
        if (t.get? parent).any FileNode.isDirectory && (t.get? (parent ++ [name])).isNone
          && name != "" && name.utf8ByteSize ≤ nameLimit then
          t.put (parent ++ [name]) (.file (.bytes []) false)
        else t

end FileTree

end InspectionHost
