import InspectionHost.Log.FieldValue
import InspectionHost.Log.Record
import InspectionHost.Text.ByteOffset
import InspectionHost.Text.Decimal

/-!
# Log filters

A filter decides which records the log keeps. It is a list of directives, each with a level and
perhaps a target, fields, and the span it is about. The most specific directive that is about a
record decides, and a record that no directive is about is not kept. A directive about spans
keeps nothing outside of them.

The places of the parts of a directive are counted in bytes without the blanks in front of it,
but the parts are cut out of the text with these blanks. So blanks shift the parts, and a place
can fall within a character, which no run survives.

## Main definitions

* `LevelBound` : which levels a directive lets through.
* `FilterFault` : why a text is not a filter.
* `Directive`, `Directive.parse` : directives and their texts.
* `LogFilter` : the directives that can decide, the most specific first.
* `LogFilter.ofText` : the filter of a text.
* `LogFilter.keeps` : whether a record is kept.
-/

namespace InspectionHost.Log

/-- The levels that a directive lets through: those with a rank of at most this, so that zero
lets nothing through. -/
abbrev LevelBound := Nat

/-- Every level is let through. -/
def everything : LevelBound := 5

/-- The names of the bounds. -/
def boundNames : List (String × LevelBound) :=
  [("off", 0), ("error", 1), ("warn", 2), ("info", 3), ("debug", 4), ("trace", 5)]

/-- The bound that a text names in letters of either case, or in digits. -/
def bound? (cs : List Char) : Option LevelBound :=
  match Text.Decimal.readUInt64? cs with
  | some n => if n.toNat ≤ everything then some n.toNat else none
  | none => boundNames.lookup (String.ofList (cs.map Char.toLower))

/-- Why a text is not a filter. -/
inductive FilterFault where
  /-- The text does not have the form of a filter. -/
  | malformed
  /-- The place in the text of a directive, counted in bytes, falls within a character. -/
  | splitCharacter (place : Nat) (text : List Char)
  deriving DecidableEq, Repr

namespace FilterFault

/-- How many bytes of a text are shown. -/
def shownBytes : Nat := 256

/-- The text a fault is shown as. -/
def message : FilterFault → String
  | malformed => "invalid filter directive"
  | splitCharacter place text =>
    let shown := Text.fitBytes shownBytes text
    "byte index " ++ Text.Decimal.print place ++ " is not a char boundary of `" ++
      String.ofList shown ++ "`" ++ (if shown.length < text.length then "[...]" else "")

end FilterFault

/-- A field of a directive, and whether it asks for a value. -/
structure FieldMatch where
  name : String
  valued : Bool
  deriving DecidableEq, Repr

/-- The field of a text. Behind an equals sign stands the value that it asks for, up to a second
one. -/
def FieldMatch.ofText? (cs : List Char) : Option FieldMatch :=
  let name := cs.takeWhile (· != '=')
  match cs.drop name.length with
  | [] => if name.isEmpty then none else some ⟨String.ofList name, false⟩
  | _ :: behind =>
    if isFieldValue (behind.takeWhile (· != '=')) then some ⟨String.ofList name, true⟩ else none

/-- A directive of a filter. -/
structure Directive where
  target : Option String
  span : Option String
  fields : List FieldMatch
  bound : LevelBound
  deriving DecidableEq, Repr

namespace Directive

/-- A directive that lets everything through. -/
def unrestricted : Directive := ⟨none, none, [], everything⟩

/-- Where the reading of a directive is, with the place where the part being read starts. -/
inductive Part where
  | start
  | levelOrTarget (first : Nat)
  | span (first : Nat)
  | field (first : Nat)
  | fields
  | target
  | level (first : Nat)
  deriving Repr

/-- Whether a directive can start with a character other than a bracket: a dash, a colon, an
underscore, a letter or a number. -/
def canStart (c : Char) : Bool :=
  c == '-' || c == ':' || c == '_' || Text.isAlphanumeric c

/-- What stands between two places of a text. -/
def cut (whole : List Char) (first last : Nat) : Except FilterFault (List Char) :=
  match Text.sliceBytes? first last whole with
  | some piece => .ok piece
  | none =>
    .error (.splitCharacter (if (Text.dropBytes? first whole).isNone then first else last) whole)

/-- What stands behind a place of a text. -/
def cutFrom (whole : List Char) (first : Nat) : Except FilterFault (List Char) :=
  match Text.dropBytes? first whole with
  | some piece => .ok piece
  | none => .error (.splitCharacter first whole)

/-- Read one character, which has the given place, of a directive with the text `whole`. -/
def readChar (whole : List Char) (d : Directive) (part : Part) (i : Nat) (c : Char) :
    Except FilterFault (Directive × Part) := do
  match part with
  | .start =>
    if c = '[' then return (d, .span (i + 1))
    else if canStart c then return (d, .levelOrTarget i)
    else throw .malformed
  | .levelOrTarget first =>
    if c = '=' then
      return ({ d with target := String.ofList (← cut whole first i) }, .level (i + 1))
    else if c = '[' then
      return ({ d with target := String.ofList (← cut whole first i) }, .span (i + 1))
    else return (d, .levelOrTarget first)
  | .target => if c = '=' then return (d, .level (i + 1)) else throw .malformed
  | .span first =>
    if c = ']' then
      return ({ d with span := some (String.ofList (← cut whole first i)) }, .target)
    else if c = '\x7b' then
      let name ← cut whole first i
      return ({ d with span := if name.isEmpty then none else some (String.ofList name) },
        .field (i + 1))
    else return (d, .span first)
  | .field first =>
    if c = '\x7d' then
      match FieldMatch.ofText? (← cut whole first i) with
      | some f => return ({ d with fields := d.fields ++ [f] }, .fields)
      | none => throw .malformed
    else return (d, .field first)
  | .fields => if c = ']' then return (d, .target) else throw .malformed
  | .level first => return (d, .level first)

/-- Read the characters of a directive from a place on. -/
def readChars (whole : List Char) (d : Directive) (part : Part) (i : Nat) :
    List Char → Except FilterFault (Directive × Part)
  | [] => return (d, part)
  | c :: cs => do
    let (d, part) ← readChar whole d part i c
    readChars whole d part (i + c.utf8Size) cs

/-- The directive of a text without commas. A word alone is a level, or else a target all of
whose levels are let through. -/
def parse (whole : List Char) : Except FilterFault Directive := do
  let (d, part) ← readChars whole unrestricted .start 0 (Text.trim whole)
  match part with
  | .levelOrTarget first =>
    let word ← cutFrom whole first
    match bound? word with
    | some bound => return { d with bound }
    | none => return { d with target := some (String.ofList word) }
  | .level first =>
    let word ← cutFrom whole first
    if word.isEmpty then return d
    match bound? word with
    | some bound => return { d with bound }
    | none => throw .malformed
  | .target => return d
  | _ => throw .malformed

/-- Whether the directive is about spans or fields. -/
def isDynamic (d : Directive) : Bool :=
  d.span.isSome || !d.fields.isEmpty

/-- Whether the directive can decide about records outside of spans. -/
def isStatic (d : Directive) : Bool :=
  d.span.isNone && !d.fields.any FieldMatch.valued

/-- Whether two directives are about the same records. -/
def sameScope (a b : Directive) : Bool :=
  a.target == b.target && a.fields.map FieldMatch.name == b.fields.map FieldMatch.name

/-- How long the target of a directive is in bytes, counted from one; zero without a target. -/
def targetRank (d : Directive) : Nat :=
  match d.target with
  | some target => target.utf8ByteSize + 1
  | none => 0

/-- Whether a directive is at least as specific as another: by its target, then by the number of
its fields, and then by the texts of both. -/
def precedes (a b : Directive) : Bool :=
  if a.targetRank != b.targetRank then b.targetRank < a.targetRank
  else if a.fields.length != b.fields.length then b.fields.length < a.fields.length
  else if a.target != b.target then decide (b.target.getD "" ≤ a.target.getD "")
  else !(a.fields.map FieldMatch.name).lex (b.fields.map FieldMatch.name) (· < ·)

/-- Whether a directive is about a record. -/
def concerns (d : Directive) (r : LogRecord) : Bool :=
  d.target.all (fun target => target.toList.isPrefixOf r.target.toList) &&
    d.fields.all fun f => r.fieldNames.contains f.name

end Directive

/-- The directives that can decide, the most specific first. -/
structure LogFilter where
  directives : List Directive
  deriving Repr

namespace LogFilter

/-- Add a directive, which takes the place of one about the same records. -/
def add (ds : List Directive) (d : Directive) : List Directive :=
  ds.filter (fun e => !e.sameScope d) ++ [d]

/-- The filter of directives. Those without spans and fields come first, so that one about fields
takes the place of one about the same records. -/
def ofDirectives (ds : List Directive) : LogFilter :=
  let static := ds.filter (fun d => !d.isDynamic) ++
    ds.filter fun d => d.isDynamic && d.isStatic
  ⟨(static.foldl add []).mergeSort Directive.precedes⟩

/-- The parts of a text between commas. -/
def splitCommas (cs : List Char) : List (List Char) :=
  cs.foldr (fun c parts =>
    if c = ',' then [] :: parts
    else match parts with
      | part :: rest => (c :: part) :: rest
      | [] => [[c]]) [[]]

/-- The filter of a text: directives between commas. -/
def ofText (text : String) : Except FilterFault LogFilter := do
  let parts := (splitCommas text.toList).filter fun part => !part.isEmpty
  return ofDirectives (← parts.mapM Directive.parse)

/-- The filter that keeps records up to a level. -/
def upTo (level : Level) : LogFilter :=
  ⟨[{ Directive.unrestricted with bound := level.rank }]⟩

/-- Whether a record is kept. -/
def keeps (f : LogFilter) (r : LogRecord) : Bool :=
  match f.directives.find? fun d => d.concerns r with
  | some d => r.level.rank ≤ d.bound
  | none => false

/-- The filter of a run: debug records and above if all are wanted, else what the environment
says. A text that is no filter means records of information and above, as does no text, unless
a place in it falls within a character. -/
def ofRun (verbose : Bool) (setting? : Option String) : Except FilterFault LogFilter :=
  if verbose then .ok (upTo .debug)
  else
    match setting?.map ofText with
    | some (.ok filter) => .ok filter
    | some (.error (.splitCharacter place text)) => .error (.splitCharacter place text)
    | some (.error .malformed) | none => .ok (upTo .info)

end LogFilter

end InspectionHost.Log
