import InspectionHost.Machine.Script
import InspectionHost.Text.Decimal
import InspectionHost.Text.Utf8

/-!
# The shell

The shell reads a text of commands and does them one after the other. Quotes and backslashes keep
characters together, a dollar sign stands for an argument of the text, and a number sign begins a
comment. A command may depend on how the one before it ended. The shell knows a few commands
itself; any other name is the name of a program that it does not find.

## Main definitions

* `ShellToken` : words and what separates commands.
* `ShellReader.read` : the tokens of a text.
* `ShellState.run` : do the commands of tokens.
* `shellSteps` : what the shell does with a text.
-/

namespace InspectionHost

/-- A word of a command, or what stands between two commands. -/
inductive ShellToken where
  | word (text : List Char)
  /-- The end of a command. -/
  | stop
  /-- The next command counts only if the one before succeeds. -/
  | andThen
  /-- The next command counts only if the one before fails. -/
  | orElse
  /-- What stands here has no meaning. -/
  | refused
  deriving DecidableEq, Repr

/-- How a character is read. -/
inductive ShellMode where
  | plain
  | singleQuoted
  | doubleQuoted
  | comment
  deriving DecidableEq, Repr

/-- A text as far as it is read. -/
structure ShellReader where
  mode : ShellMode
  /-- A backslash, a dollar sign or the half of an operator, which the next character settles. -/
  pending : Option Char
  /-- The word being read, the last character first; it is missing between words. -/
  word : Option (List Char)
  /-- The tokens, the last first. -/
  tokens : List ShellToken

namespace ShellReader

/-- Nothing is read. -/
def start : ShellReader := ⟨.plain, none, none, []⟩

/-- The reader at the end of a word, if it is in one. -/
def endWord (r : ShellReader) : ShellReader :=
  { r with word := none, tokens := (r.word.map fun w => .word w.reverse).toList ++ r.tokens }

/-- Read a token. -/
def emit (r : ShellReader) (token : ShellToken) : ShellReader :=
  let r := r.endWord
  { r with tokens := token :: r.tokens }

/-- Read characters of a word. -/
def add (r : ShellReader) (cs : List Char) : ShellReader :=
  { r with word := some (cs.reverse ++ r.word.getD []) }

/-- Read on in another mode, where quotes make a word even of nothing. -/
def enter (r : ShellReader) (mode : ShellMode) : ShellReader :=
  { r.add [] with mode }

/-- What stands behind a dollar sign: the value, if a character can stand there. The argument with
the number zero is the name of the text. -/
def parameter? (name : String) (arguments : List String) (c : Char) : Option (List Char) :=
  if c = '#' then some (Text.Decimal.digits arguments.length)
  else if c = '@' ∨ c = '*' then some (" ".intercalate arguments).toList
  else if c.isDigit then
    some (((name :: arguments)[c.toNat - '0'.toNat]?).getD "").toList
  else none

/-- Read the character behind a pending one. Between double quotes a backslash stands for itself
before most characters. -/
def settle (name : String) (arguments : List String) (r : ShellReader) (pending c : Char) :
    ShellReader :=
  let r := { r with pending := none }
  if pending = '\\' then
    if c = '\n' then r
    else if r.mode = .doubleQuoted ∧ !"$`\"\\".toList.contains c then r.add [pending, c]
    else r.add [c]
  else if pending = '$' then
    match parameter? name arguments c with
    | some value => if value.isEmpty then r else r.add value
    | none => r.emit .refused
  else if c = pending then r.emit (if c = '&' then .andThen else .orElse)
  else r.emit .refused

/-- The characters without a meaning outside of quotes that the shell could do something with. -/
def refusedCharacters : List Char := "()<>`".toList

/-- Read one character. -/
def step (name : String) (arguments : List String) (r : ShellReader) (c : Char) : ShellReader :=
  match r.pending, r.mode with
  | some pending, _ => settle name arguments r pending c
  | none, .comment => if c = '\n' then { r.emit .stop with mode := .plain } else r
  | none, .singleQuoted => if c = '\'' then r.enter .plain else r.add [c]
  | none, .doubleQuoted =>
    if c = '"' then r.enter .plain
    else if c = '\\' ∨ c = '$' then { r with pending := some c }
    else if c = '`' then r.emit .refused
    else r.add [c]
  | none, .plain =>
    if c = ' ' ∨ c = '\t' then r.endWord
    else if c = '\n' ∨ c = ';' then r.emit .stop
    else if c = '\'' then r.enter .singleQuoted
    else if c = '"' then r.enter .doubleQuoted
    else if c = '#' ∧ r.word.isNone then { r with mode := .comment }
    else if c = '\\' ∨ c = '$' ∨ c = '&' ∨ c = '|' then { r with pending := some c }
    else if refusedCharacters.contains c then r.emit .refused
    else r.add [c]

/-- The tokens of a text that has a name and gets arguments. -/
def read (name : String) (arguments : List String) (cs : List Char) : List ShellToken :=
  let r := cs.foldl (step name arguments) start
  let complete := r.pending.isNone && r.mode != .singleQuoted && r.mode != .doubleQuoted
  (if complete then r.endWord else r.emit .refused).tokens.reverse

end ShellReader

/-- What the shell has done. -/
structure ShellState where
  /-- What was written. -/
  written : List Char
  /-- The status of the last command. -/
  status : Nat
  /-- Whether the shell has ended. -/
  ended : Bool
  /-- Whether the next command does not count. -/
  skipping : Bool
  /-- The words of the command being read, the last first. -/
  words : List (List Char)

namespace ShellState

/-- Nothing is done. -/
def start : ShellState := ⟨[], 0, false, false, []⟩

/-- The characters of a text with escapes of one letter. -/
def unescape : List Char → List Char
  | '\\' :: 'n' :: cs => '\n' :: unescape cs
  | '\\' :: 't' :: cs => '\t' :: unescape cs
  | '\\' :: '\\' :: cs => '\\' :: unescape cs
  | c :: cs => c :: unescape cs
  | [] => []

/-- The status of a command that is not found. -/
def notFound : Nat := 127

/-- The status of a shell that cannot go on. -/
def unusable : Nat := 2

/-- Write something and succeed. -/
def write (s : ShellState) (text : List Char) : ShellState :=
  { s with written := s.written ++ text, status := 0 }

/-- End with a code in decimal digits, or with the last status. -/
def exit (s : ShellState) : List (List Char) → ShellState
  | [] => { s with ended := true }
  | code :: _ =>
    if code.all Char.isDigit then
      { s with ended := true, status := (code.foldl (fun n c => n * 10 + (c.toNat - 48)) 0) % 256 }
    else { s with ended := true, status := unusable }

/-- Do a command. -/
def perform (s : ShellState) : List (List Char) → ShellState
  | [] => s
  | name :: rest =>
    match String.ofList name with
    | ":" | "true" => { s with status := 0 }
    | "false" => { s with status := 1 }
    | "exit" => s.exit rest
    | "echo" =>
      match rest with
      | ['-', 'n'] :: rest => s.write (unescape ([' '].intercalate rest))
      | _ => s.write (unescape ([' '].intercalate rest) ++ ['\n'])
    | _ => { s with status := if name.contains '=' then 0 else notFound }

/-- Do the command whose words are read. -/
def finish (s : ShellState) : ShellState :=
  let words := s.words.reverse
  let s := { s with words := [] }
  if s.skipping then { s with skipping := false } else s.perform words

/-- Do the commands of tokens. -/
def run (s : ShellState) : List ShellToken → ShellState
  | [] => s.finish
  | token :: rest =>
    if s.ended then s
    else match token with
      | .word w => run { s with words := w :: s.words } rest
      | .stop => run s.finish rest
      | .andThen =>
        let s := s.finish
        run { s with skipping := s.status != 0 } rest
      | .orElse =>
        let s := s.finish
        run { s with skipping := s.status == 0 } rest
      | .refused => { s with ended := true, status := unusable }

end ShellState

/-- What the shell does with a text that has a name and gets arguments. -/
def shellSteps (name : String) (arguments : List String) (content : List UInt8) : List Step :=
  let s := ShellState.start.run (ShellReader.read name arguments (Text.Utf8.decodeLossy content))
  [.out (Text.Utf8.encode s.written), .exit s.status]

end InspectionHost
