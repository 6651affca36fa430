import InspectionHost.Machine.FirstLine
import InspectionHost.Machine.ProgramLookup
import InspectionHost.Machine.Shell

/-!
# Launching programs

A launch enters the working directory, opens the file of the program and loads it. A path with
a slash leads to the file; a name without one is looked for on the search path once more. A file
is loaded if it may be executed and is a program of the system, or if its first line names a
program that can be loaded. A launch with a search path of its own hands any other file that it
finds there to the shell.

## Main definitions

* `Stream` : where an output of a program goes.
* `Launch` : what is to be launched, and how.
* `Image` : a program that is ready to run.
* `Launch.start` : the image of a launch, or the error that stops it.
-/

namespace InspectionHost

/-- Where an output of a program goes. -/
inductive Stream where
  /-- Nowhere. -/
  | discarded
  /-- Into a pipe that the launcher reads. -/
  | piped
  /-- To where that of the launcher goes. -/
  | inherited
  deriving DecidableEq, Repr

/-- What is to be launched. Its input is empty. -/
structure Launch where
  /-- The path of the program, or its name on the search path. -/
  program : String
  arguments : List String
  /-- The working directory; without one, that of the launcher. -/
  directory : Option String
  /-- The variables set beyond those of the launcher; a later value wins. -/
  additions : List (String × String)
  output : Stream
  errors : Stream
  deriving Repr

/-- A program that is ready to run. -/
structure Image where
  script : Script
  arguments : List String
  /-- The texts of its environment. -/
  environment : List String
  directory : Place
  deriving Repr

namespace Launch

/-- Where a launch looks for files, and what it hands on. -/
structure Setting where
  files : FileTree
  directory : Place
  arguments : List String
  /-- The texts of the environment. -/
  environment : List String

/-- The shortest text in bytes that is too long to be handed to a program. -/
def textLimit : Nat := 131072

/-- How many bytes the texts that are handed to a program and their places may take. -/
def spaceLimit : Nat := 2097152

/-- How many programs may stand behind a file, each named in the first line of the one before. -/
def interpreterLimit : Nat := 5

/-- Where the shell is. -/
def shellPath : String := "/bin/sh"

/-- The bytes of a text with the NUL behind it. -/
def spaceOf (text : String) : Nat := text.utf8ByteSize + 1

/-- Whether the texts for the program at a path are too long, one alone or all together. -/
def isTooLarge (s : Setting) (path : String) (arguments : List String) : Bool :=
  let texts := arguments ++ s.environment
  texts.any (fun text => textLimit ≤ text.utf8ByteSize) ||
    spaceLimit < (path :: texts).foldr (fun text space => spaceOf text + space) (8 * texts.length)

/-- What the file holds that a path leads to, if it may be executed. -/
def openProgram (s : Setting) (path : String) : Except IoError FileBody :=
  match s.files.locate s.directory path with
  | .error e => .error e
  | .ok place =>
    match s.files.get? place with
    | some (.file body true) => .ok body
    | _ => .error .permissionDenied

/-- What the file of a program holds that a first line names. No name stands for the working
directory, which is not a program. -/
def openNamed (s : Setting) (path : String) : Except IoError FileBody :=
  if path.isEmpty then .error .permissionDenied else openProgram s path

/-- What the shell does with arguments. The first one names the file that it reads, and without
any it has nothing to read. -/
def runShell (s : Setting) : List String → Script × List String
  | [] => (⟨none, [.exit 0]⟩, [])
  | file :: arguments =>
    match s.files.read s.directory file with
    | .ok (.script script) => (script, arguments)
    | .ok (.bytes content) => (⟨none, shellSteps file arguments content⟩, arguments)
    | _ => (⟨none, [.exit ShellState.unusable]⟩, arguments)

/-- What a file does that was opened at a path, and the arguments it gets. Up to `depth` programs
may stand behind it, of which the shell is one. -/
def interpret (s : Setting) (arguments : List String) (path : String) :
    Nat → FileBody → Except IoError (Script × List String)
  | _, .machineCode script => .ok (script, arguments)
  | _, .shell => .ok (runShell s arguments)
  | 0, .script _ => .error .tooManyLinks
  | _ + 1, .script script => .ok (script, arguments)
  | depth, .bytes content =>
    match ProgramLine.ofContent? content with
    | none => .error .execFormat
    | some line =>
      match openNamed s line.program with
      | .error e => .error e
      | .ok body =>
        match depth with
        | 0 => .error .tooManyLinks
        | depth + 1 =>
          interpret s (line.argument.toList ++ path :: arguments) line.program depth body

/-- Load the program at a path, which is told under a name. -/
def load (s : Setting) (name path : String) (arguments : List String) :
    Except IoError (Script × List String) := do
  let body ← openProgram s path
  if isTooLarge s path (name :: arguments) then .error .argumentListTooLong
  interpret s arguments path interpreterLimit body

/-- Load the program at a path, or let the shell read what is there if it is no program. -/
def loadOrRead (s : Setting) (name : String) (shell : Bool) (path : String) :
    Except IoError (Script × List String) :=
  match load s name path s.arguments with
  | .error e =>
    if shell && e == .execFormat then load s shellPath shellPath (path :: s.arguments)
    else .error e
  | found => found

/-- Whether the search goes on behind an error. -/
def passesOver (e : IoError) : Bool :=
  e == .permissionDenied || e == .noEntry || e == .notADirectory

/-- Load the first of several paths that can be loaded. An error other than a missing file or
permission ends the search; a missing permission is remembered. -/
def loadFirst (s : Setting) (name : String) (shell : Bool) (error : IoError) :
    List String → Except IoError (Script × List String)
  | [] => .error error
  | path :: rest =>
    match loadOrRead s name shell path with
    | .ok found => .ok found
    | .error e =>
      if passesOver e then
        loadFirst s name shell (if error == .permissionDenied then error else e) rest
      else .error e

/-- Whether a program is given by a path. -/
def isPath (program : String) : Bool := program.toList.contains '/'

/-- The directories that are looked at, where one in front of others that takes `limit` bytes or
more stands for the working directory, and one at the end is left out. -/
def usableDirectories (limit : Nat) : List String → List String
  | [] => []
  | [path] => if path.utf8ByteSize < limit then [path] else []
  | path :: rest =>
    (if path.utf8ByteSize < limit then path else "") :: usableDirectories limit rest

/-- The paths at which a program is looked for when it is launched. -/
def paths (env : Environment) (program : String) : List String :=
  if isPath program then [program]
  else
    let search := (env.get? "PATH").getD "/bin:/usr/bin"
    let limit := min search.utf8ByteSize (FileTree.pathLimit - 1) + 1
    (usableDirectories limit (splitColons search)).map fun path =>
      if path.isEmpty then program else path ++ "/" ++ program

/-- The texts that a launch hands to the system. -/
def texts (l : Launch) : List String :=
  l.program :: l.arguments ++ l.directory.toList ++ l.additions.flatMap fun (name, value) =>
    [name, value]

/-- Whether the launch looks for its program on a search path of its own. -/
def hasSearchPath (l : Launch) : Bool :=
  !isPath l.program && l.additions.any fun addition => addition.1 == "PATH"

/-- The image of a launch. Texts must hold no NUL, and the working directory is entered before the
program is looked for. -/
def start (l : Launch) (t : FileTree) (directory : Place) (env : Environment) :
    Except IoError Image := do
  if l.texts.any fun text => decide ('\x00' ∈ text.toList) then .error .nulInArgument
  let directory ← match l.directory with
    | none => .ok directory
    | some path => t.enter directory path
  let env := env.setAll l.additions
  if l.program.isEmpty then .error .noEntry
  let s : Setting := ⟨t, directory, l.arguments, env.block⟩
  let (script, arguments) ←
    loadFirst s l.program l.hasSearchPath .noEntry (paths env l.program)
  return ⟨script, arguments, s.environment, directory⟩

end Launch

end InspectionHost
