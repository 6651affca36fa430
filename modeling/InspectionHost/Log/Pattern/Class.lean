import InspectionHost.Log.Pattern.Basic

/-!
# Classes of field patterns

A class stands between brackets and has members: characters, ranges, class escapes, named classes
of ASCII characters, and classes within it. Two ampersands, dashes or tildes set operate on the
members before and behind them.

## Main definitions

* `ClassPart` : a class as far as it is read.
* `readClass?` : how deep a class nests, and the text behind it.
-/

namespace InspectionHost.Log

open InspectionHost.Text

/-- How deep parts nest that stand beside each other, where several parts are a part of their
own. -/
def nestTogether : List Nat → Nat
  | [] => 0
  | [depth] => depth
  | depths => depths.foldl max 0 + 1

/-- What a class is about to read. -/
inductive ClassStart where
  /-- The first character: a circumflex complements the class. -/
  | opened
  /-- A dash or a closing bracket that stand for themselves. -/
  | complemented
  /-- A further dash that stands for itself. -/
  | dashed
  /-- Any member. -/
  | begun
  deriving DecidableEq, Repr

/-- A class as far as it is read. -/
structure ClassPart where
  start : ClassStart
  /-- How deep the members nest that no operation has used. -/
  members : List Nat
  /-- How deep the left side of an operation nests. -/
  left : Option Nat
  deriving DecidableEq, Repr

namespace ClassPart

/-- A class of which nothing is read. -/
def opened : ClassPart := ⟨.opened, [], none⟩

/-- How deep the members and operations of a class nest. -/
def depth (p : ClassPart) : Nat :=
  match p.left with
  | none => nestTogether p.members
  | some left => max left (nestTogether p.members) + 1

/-- The class with a further member. -/
def add (p : ClassPart) (depth : Nat) : ClassPart :=
  { p with start := .begun, members := depth :: p.members }

/-- The class behind the sign of an operation. -/
def operate (p : ClassPart) : ClassPart :=
  ⟨.begun, [], some p.depth⟩

end ClassPart

namespace PatternMode

/-- The names of the classes of ASCII characters. -/
def classNames : List String :=
  ["alnum", "alpha", "ascii", "blank", "cntrl", "digit", "graph", "lower", "print", "punct",
    "space", "upper", "word", "xdigit"]

/-- The name between colons of a class of ASCII characters, from behind its opening bracket:
whether the class is complemented, and the text behind it. -/
def readClassName? : List Char → Option (Bool × List Char)
  | ':' :: cs =>
    let negated := cs.head? == some '^'
    let cs := if negated then cs.drop 1 else cs
    match cs.dropWhile (· != ':') with
    | ':' :: ']' :: rest =>
      if classNames.contains (String.ofList (cs.takeWhile (· != ':'))) then some (negated, rest)
      else none
    | _ => none
  | _ => none

/-- Whether a class of ASCII characters is usable. -/
def admitsClassName (m : PatternMode) (negated : Bool) : Bool :=
  if m.unicode then !m.foldCase else !negated

/-- A member of a class: a character, or what a backslash announces. -/
def readMember? (m : PatternMode) (c : Char) (cs : List Char) :
    Option (PatternAtom × List Char) := do
  let (atom, rest) ← if c = '\\' then m.readEscape? cs else some (.literal c false, cs)
  if m.admitsInClass atom then return (atom, rest) else none

/-- The text behind a member or a range that starts with a character. -/
def readRange? (m : PatternMode) (c : Char) (cs : List Char) : Option (List Char) := do
  let (first, rest) ← m.readMember? c cs
  match m.skip rest with
  | '-' :: behind =>
    if m.peek? behind == some ']' || m.peek? behind == some '-' then return '-' :: behind
    match first, m.skip behind with
    | .literal low _, d :: behind =>
      let (last, rest) ← m.readMember? d behind
      match last with
      | .literal high _ => if low ≤ high then return rest else none
      | _ => none
    | _, _ => none
  | rest => return rest

/-- Whether a character and the one behind it are the sign of an operation. -/
def isOperation (c : Char) (cs : List Char) : Bool :=
  (c == '&' || c == '-' || c == '~') && cs.head? == some c

/-- Read a class from behind its opening bracket. `above` are the classes that it is in, the
innermost first; `fuel` bounds the number of members and brackets. -/
def readClassPart? (m : PatternMode) (part : ClassPart) (above : List ClassPart) (cs : List Char) :
    Nat → Option (Nat × List Char)
  | 0 => none
  | fuel + 1 =>
    match m.skip cs with
    | [] => none
    | c :: cs =>
      if part.start = .opened ∧ c = '^' then
        if m.unicode then
          readClassPart? m { part with start := .complemented } above cs fuel
        else none
      else if part.start ≠ .begun ∧ c = '-' then
        if m.admitsInClass (.literal c false) then
          readClassPart? m { part.add 0 with start := .dashed } above cs fuel
        else none
      else if part.start ≠ .begun ∧ part.start ≠ .dashed ∧ c = ']' then
        if m.admitsInClass (.literal c false) then readClassPart? m (part.add 0) above cs fuel
        else none
      else if c = ']' then
        match above with
        | [] => some (part.depth + 1, cs)
        | outer :: above => readClassPart? m (outer.add (part.depth + 1)) above cs fuel
      else if c = '[' then
        match readClassName? cs with
        | some (negated, rest) =>
          if m.admitsClassName negated then readClassPart? m (part.add 0) above rest fuel
          else none
        | none => readClassPart? m .opened (part :: above) cs fuel
      else if isOperation c cs then readClassPart? m part.operate above (cs.drop 1) fuel
      else
        match m.readRange? c cs with
        | some rest => readClassPart? m (part.add 0) above rest fuel
        | none => none

/-- How deep a class nests, and the text behind it, from behind its opening bracket. -/
def readClass? (m : PatternMode) (cs : List Char) : Option (Nat × List Char) :=
  m.readClassPart? .opened [] cs (cs.length + 1)

end PatternMode

end InspectionHost.Log
