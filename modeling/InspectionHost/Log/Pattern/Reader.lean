import InspectionHost.Log.Pattern.Class
import InspectionHost.Text.Letters

/-!
# Reading field patterns

A pattern consists of branches, and a branch of items: atoms, classes, groups, repeated items and
settings of flags. A flag counts up to the end of the group in which it is set. The names of
groups differ, and the parts of a pattern nest to a depth of at most 250.

## Main definitions

* `PatternGroup` : a group as far as it is read.
* `PatternReader` : what is read of a pattern.
* `isPattern` : whether a text is a usable pattern.
-/

namespace InspectionHost.Log

open InspectionHost.Text

/-- A group as far as it is read; the whole pattern is one. -/
structure PatternGroup where
  mode : PatternMode
  /-- How deep the items of the branch being read nest, the last first. -/
  items : List Nat
  /-- Whether the last item can be repeated. -/
  repeatable : Bool
  /-- How deep the branches before nest. -/
  branches : List Nat
  deriving Repr

namespace PatternGroup

/-- A group of which nothing is read. -/
def opened (mode : PatternMode) : PatternGroup := ⟨mode, [], false, []⟩

/-- The group with a further item. -/
def add (g : PatternGroup) (depth : Nat) : PatternGroup :=
  { g with items := depth :: g.items, repeatable := true }

/-- The group with flags for what follows. -/
def set (g : PatternGroup) (mode : PatternMode) : PatternGroup :=
  { g with mode, items := 0 :: g.items, repeatable := false }

/-- The group with its last item repeated. -/
def repeatLast? (g : PatternGroup) : Option PatternGroup :=
  match g.items with
  | depth :: items => if g.repeatable then some { g with items := (depth + 1) :: items } else none
  | [] => none

/-- The group with a new branch. -/
def branch (g : PatternGroup) : PatternGroup :=
  ⟨g.mode, [], false, nestTogether g.items :: g.branches⟩

/-- How deep what stands in the group nests. -/
def depth (g : PatternGroup) : Nat :=
  nestTogether (nestTogether g.items :: g.branches)

end PatternGroup

/-- The letters of the flags: no regard to case, many lines, dots for line ends, lazy
repetition, Unicode, line ends of two characters, and skipped blanks. -/
def flagLetters : List Char := "imsUuRx".toList

/-- Flags up to a colon or a closing parenthesis, with this character and the text behind it.
Flags behind a dash are cleared; a flag stands once, and a dash in front of another flag. -/
def readFlags? (cs : List Char) : Option (List Char × Char × List Char) :=
  let flags := cs.takeWhile fun c => c != ':' && c != ')'
  match cs.drop flags.length with
  | [] => none
  | stop :: rest =>
    if flags.all (fun c => c == '-' || flagLetters.contains c) && decide flags.Nodup &&
        flags.getLast? != some '-' then
      some (flags, stop, rest)
    else none

/-- The value of a flag that had a value before. -/
def flagValue (flags : List Char) (flag : Char) (before : Bool) : Bool :=
  if flags.contains flag then (flags.takeWhile (· != '-')).contains flag else before

/-- The mode with flags. -/
def PatternMode.withFlags (m : PatternMode) (flags : List Char) : PatternMode :=
  ⟨flagValue flags 'u' m.unicode, flagValue flags 'i' m.foldCase, flagValue flags 'x' m.spaced⟩

/-- The name of a group up to an angle bracket, and the text behind it. A name starts with a
letter or an underscore; digits, dots and brackets may follow. -/
def readGroupName? (cs : List Char) : Option (List Char × List Char) :=
  let name := cs.takeWhile (· != '>')
  match name, cs.drop name.length with
  | first :: others, _ :: rest =>
    if (first == '_' || isLetter first) &&
        others.all (fun c => "_.[]".toList.contains c || isAlphanumeric c) then
      some (name, rest)
    else none
  | _, _ => none

/-- What is read of a pattern. -/
structure PatternReader where
  group : PatternGroup
  /-- The groups around the group being read, the innermost first. -/
  above : List PatternGroup
  /-- The names of the groups. -/
  names : List (List Char)

namespace PatternReader

/-- Nothing is read yet. -/
def start : PatternReader := ⟨.opened .start, [], []⟩

/-- Open a group. -/
def openGroup (r : PatternReader) (mode : PatternMode) : PatternReader :=
  { r with group := .opened mode, above := r.group :: r.above }

/-- Open a group with a name, from behind the angle bracket before the name. -/
def openNamed? (r : PatternReader) (cs : List Char) : Option (PatternReader × List Char) := do
  let (name, rest) ← readGroupName? cs
  if r.names.contains name then none
  else return ({ r.openGroup r.group.mode with names := name :: r.names }, rest)

/-- Read what stands behind an opening parenthesis: the opening of a group, or a setting of
flags. Assertions on the text around a place are not usable. -/
def readOpening? (r : PatternReader) (cs : List Char) : Option (PatternReader × List Char) :=
  match r.group.mode.skip cs with
  | '?' :: '<' :: rest =>
    if rest.head? == some '=' || rest.head? == some '!' then none else r.openNamed? rest
  | '?' :: 'P' :: '<' :: rest => r.openNamed? rest
  | '?' :: rest => do
    let (flags, stop, rest) ← readFlags? rest
    let mode := r.group.mode.withFlags flags
    if stop = ':' then return (r.openGroup mode, rest)
    else if flags.isEmpty then none
    else return ({ r with group := r.group.set mode }, rest)
  | rest => some (r.openGroup r.group.mode, rest)

/-- Close a group. The flags are those from before it. -/
def close? (r : PatternReader) : Option PatternReader :=
  match r.above with
  | [] => none
  | outer :: above => some { r with group := outer.add (r.group.depth + 1), above }

/-- Read an atom that starts with a character. -/
def readAtom? (r : PatternReader) (c : Char) (cs : List Char) :
    Option (PatternReader × List Char) := do
  let mode := r.group.mode
  let (atom, rest) ←
    if c = '\\' then mode.readEscape? cs
    else if c = '.' then some (.any, cs)
    else if c = '^' ∨ c = '$' then some (.assertion false, cs)
    else some (.literal c false, cs)
  if mode.admits atom then return ({ r with group := r.group.add 0 }, rest) else none

/-- Read on from a character. A brace would be a counted repetition, which no text of a value
can close. -/
def step? (r : PatternReader) (c : Char) (cs : List Char) : Option (PatternReader × List Char) :=
  if c = '(' then r.readOpening? cs
  else if c = ')' then r.close?.map (·, cs)
  else if c = '|' then some ({ r with group := r.group.branch }, cs)
  else if c = '[' then
    (r.group.mode.readClass? cs).map fun (depth, rest) =>
      ({ r with group := r.group.add depth }, rest)
  else if c = '?' ∨ c = '*' ∨ c = '+' then
    r.group.repeatLast?.map fun group =>
      ({ r with group }, if cs.head? == some '?' then cs.drop 1 else cs)
  else if c = '\x7b' then none
  else r.readAtom? c cs

/-- Read to the end of a pattern; `fuel` bounds the number of steps. -/
def read? (r : PatternReader) (cs : List Char) : Nat → Option PatternReader
  | 0 => none
  | fuel + 1 =>
    match r.group.mode.skip cs with
    | [] => some r
    | c :: cs =>
      match r.step? c cs with
      | some (r, cs) => read? r cs fuel
      | none => none

end PatternReader

/-- How deep the parts of a pattern may nest. -/
def patternDepthLimit : Nat := 250

/-- Whether a text is a usable pattern. -/
def isPattern (cs : List Char) : Bool :=
  match PatternReader.start.read? cs (cs.length + 1) with
  | some r => r.above.isEmpty && r.group.depth ≤ patternDepthLimit
  | none => false

end InspectionHost.Log
