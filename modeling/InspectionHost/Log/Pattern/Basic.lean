import InspectionHost.Text.Blank
import InspectionHost.Text.Hex

/-!
# Characters of field patterns

A pattern for the value of a field is a regular expression. How its characters are read depends
on flags: whether it is about Unicode characters or about bytes, whether letter case counts, and
whether blanks and comments between its parts are skipped.

Patterns match well-formed UTF-8 and know no table of Unicode properties. So classes that
need such a table are refused where patterns are about characters, as is the comparison without
regard to case, and where patterns are about bytes, all that could match a part of a character.

## Main definitions

* `PatternMode` : the flags that matter for reading.
* `PatternAtom` : a character, an assertion or a class escape.
* `PatternMode.skip` : what follows blanks and comments.
* `PatternMode.readEscape?` : what a backslash announces.
* `PatternMode.admits`, `PatternMode.admitsInClass` : whether an atom is usable.
-/

namespace InspectionHost.Log

open InspectionHost.Text

/-- The flags under which a part of a pattern is read. -/
structure PatternMode where
  /-- The pattern is about characters, and not about bytes. -/
  unicode : Bool
  /-- Letter case does not count. -/
  foldCase : Bool
  /-- Blanks and comments are skipped. -/
  spaced : Bool
  deriving DecidableEq, Repr

/-- A smallest part of a pattern. -/
inductive PatternAtom where
  /-- A character; one given by two hexadecimal digits can stand for a byte. -/
  | literal (c : Char) (byte : Bool)
  /-- Any character. -/
  | any
  /-- An assertion on a place, perhaps on the words around it. -/
  | assertion (word : Bool)
  /-- A class escape: digits, spaces, word characters, or all but one of these. -/
  | classEscape (negated : Bool)
  deriving DecidableEq, Repr

/-- The text behind blanks and comments. A comment starts at a number sign and ends with its
line. -/
def skipComments (inComment : Bool) : List Char → List Char
  | [] => []
  | c :: cs =>
    if inComment then skipComments (c != '\n') cs
    else if isBlank c then skipComments false cs
    else if c = '#' then skipComments true cs
    else c :: cs

namespace PatternMode

/-- The mode at the start of a pattern. -/
def start : PatternMode := ⟨true, false, false⟩

/-- The text behind what is skipped. -/
def skip (m : PatternMode) (cs : List Char) : List Char :=
  if m.spaced then skipComments false cs else cs

/-- The next character behind a dash of a class. In a comment only the first character that is
not blank is looked at. -/
def peek? (m : PatternMode) (cs : List Char) : Option Char :=
  if m.spaced then
    match cs.dropWhile isBlank with
    | '#' :: comment => (comment.dropWhile isBlank).head?
    | cs => cs.head?
  else cs.head?

/-- Whether a character stands for itself behind a backslash: if it is an ASCII character that is
no letter, digit or angle bracket. -/
def isEscapable (c : Char) : Bool :=
  c.toNat < 0x80 && !c.isAlphanum && c != '<' && c != '>'

/-- The characters that stand for control characters behind a backslash. -/
def controlEscapes : List (Char × Char) :=
  [('a', '\x07'), ('f', '\x0c'), ('t', '\t'), ('n', '\n'), ('r', '\r'), ('v', '\x0b')]

/-- Read so many hexadecimal digits onto a value. -/
def readHex? (m : PatternMode) : Nat → Nat → List Char → Option (Nat × List Char)
  | 0, value, cs => some (value, m.skip cs)
  | digits + 1, value, cs =>
    match m.skip cs with
    | [] => none
    | c :: rest =>
      match Hex.digitValue? c with
      | some digit => readHex? m digits (value * 16 + digit) rest
      | none => none

/-- The character with the code point of so many hexadecimal digits. -/
def readCodePoint? (m : PatternMode) (digits : Nat) (cs : List Char) :
    Option (PatternAtom × List Char) := do
  let (value, rest) ← m.readHex? digits 0 cs
  if value.isValidChar then return (.literal (Char.ofNat value) (digits == 2), rest) else none

/-- What a backslash announces. Properties, back references and braces are not usable. -/
def readEscape? (m : PatternMode) : List Char → Option (PatternAtom × List Char)
  | [] => none
  | c :: cs =>
    if c = 'x' then m.readCodePoint? 2 cs
    else if c = 'u' then m.readCodePoint? 4 cs
    else if c = 'U' then m.readCodePoint? 8 cs
    else if c = 'd' ∨ c = 's' ∨ c = 'w' then some (.classEscape false, cs)
    else if c = 'D' ∨ c = 'S' ∨ c = 'W' then some (.classEscape true, cs)
    else if c = 'A' ∨ c = 'z' then some (.assertion false, cs)
    else if c = 'b' ∨ c = 'B' ∨ c = '<' ∨ c = '>' then some (.assertion true, cs)
    else if isEscapable c then some (.literal c false, cs)
    else (controlEscapes.lookup c).map fun c => (.literal c false, cs)

/-- Whether an atom is usable outside of classes. -/
def admits (m : PatternMode) : PatternAtom → Bool
  | .literal c byte => if m.unicode then !m.foldCase else !byte || c.toNat < 0x80
  | .any => m.unicode
  | .assertion word => !word || !m.unicode
  | .classEscape negated => !m.unicode && !negated

/-- Whether an atom is usable as a member of a class. -/
def admitsInClass (m : PatternMode) : PatternAtom → Bool
  | .literal c _ => if m.unicode then !m.foldCase else c.toNat < 0x80
  | .classEscape negated => !m.unicode && !negated
  | _ => false

end PatternMode

end InspectionHost.Log
