import InspectionHost.Toml.Number

/-!
# TOML documents

A document is a sequence of lines: keys with values, headers of tables, and lines without
either. It is read into the tree of its tables, or refused as a whole.

## Main definitions

* `value?` : a value of any kind.
* `Building` : the tree so far, and the table of the current header.
* `document?` : the tree of a document.
-/

namespace InspectionHost.Toml

mutual

/-- A value. Arrays and inline tables may nest while `depth` is positive; `fuel` bounds the
number of values and of steps between them. -/
def value? (depth : Nat) (fuel : Nat) (cs : List Char) : Option (Node × List Char) :=
  match fuel with
  | 0 => none
  | fuel + 1 =>
    match cs with
    | [] => none
    | '"' :: _ => (string? cs).map fun (s, rest) => (.text s, rest)
    | '\'' :: _ => (string? cs).map fun (s, rest) => (.text s, rest)
    | '[' :: rest =>
      if depth = 0 then none
      else (items? (depth - 1) fuel rest).map fun (items, rest) => (.array items, rest)
    | '\x7b' :: rest =>
      if depth = 0 then none
      else
        match skipBlanks rest with
        | '\x7d' :: rest => some (.inline Table.empty.origin [], rest)
        | _ => (members? (depth - 1) fuel Table.empty rest).map fun (t, rest) =>
          (.inline t.origin t.entries, rest)
    | 't' :: 'r' :: 'u' :: 'e' :: rest => some (.boolean true, rest)
    | 'f' :: 'a' :: 'l' :: 's' :: 'e' :: rest => some (.boolean false, rest)
    | _ =>
      match dateTime? cs with
      | some rest => some (.dateTime, rest)
      | none => number? cs

/-- The items of an array, up to its closing bracket. A comma may follow the last. -/
def items? (depth : Nat) (fuel : Nat) (cs : List Char) : Option (List Node × List Char) :=
  match fuel with
  | 0 => none
  | fuel + 1 =>
    match skipLines cs.length cs with
    | ']' :: rest => some ([], rest)
    | cs => do
      let (item, rest) ← value? depth fuel cs
      match skipLines rest.length rest with
      | ',' :: rest =>
        let (items, rest) ← items? depth fuel rest
        return (item :: items, rest)
      | ']' :: rest => return ([item], rest)
      | _ => none

/-- The members of an inline table, up to its closing brace. No comma follows the last. -/
def members? (depth : Nat) (fuel : Nat) (t : Table) (cs : List Char) :
    Option (Table × List Char) :=
  match fuel with
  | 0 => none
  | fuel + 1 => do
    let ((path, key), rest) ← key? cs
    match rest with
    | '=' :: rest =>
      let (node, rest) ← value? depth fuel (skipBlanks rest)
      let t ← t.put? true path key node
      match skipBlanks rest with
      | ',' :: rest => members? depth fuel t rest
      | '\x7d' :: rest => return (t, rest)
      | _ => none
    | _ => none

end

/-- The state of reading: the tree, the header that the current table stands under with whether
it repeats, and the current table. -/
structure Building where
  root : Table
  header : Option (Bool × List String × String)
  current : Table

namespace Building

/-- Nothing is read, and no header has come yet. -/
def start : Building := ⟨Table.empty, none, Table.empty⟩

/-- The tree with the current table in its place. -/
def finish? (b : Building) : Option Table :=
  match b.header with
  | none => some b.current
  | some (false, path, key) => b.root.close? path key b.current
  | some (true, path, key) => b.root.closeArray? path key b.current

/-- Begin the table of a header. -/
def openHeader? (b : Building) (repeated : Bool) (path : List String) (key : String) :
    Option Building := do
  let root ← b.finish?
  if repeated then
    let root ← root.openArray? path key
    return ⟨root, some (true, path, key), Table.empty⟩
  else
    let (current, root) ← root.open? path key
    return ⟨root, some (false, path, key), current⟩

/-- Read one line that is not blank, and the end of the line. -/
def line? (b : Building) (cs : List Char) : Option (Building × List Char) :=
  match skipBlanks cs with
  | '[' :: '[' :: rest => do
    let ((path, key), rest) ← key? rest
    match rest with
    | ']' :: ']' :: rest => return (← b.openHeader? true path key, ← lineEnd? rest)
    | _ => none
  | '[' :: rest => do
    let ((path, key), rest) ← key? rest
    match rest with
    | ']' :: rest => return (← b.openHeader? false path key, ← lineEnd? rest)
    | _ => none
  | cs => do
    let ((path, key), rest) ← key? cs
    match rest with
    | '=' :: rest =>
      let value := skipBlanks rest
      let (node, rest) ← value? (depthLimit - 1) (2 * value.length + 2) value
      let current ← b.current.put? false path key node
      return ({ b with current }, ← lineEnd? rest)
    | _ => none

/-- Read lines up to the end of the document; `fuel` bounds their number. -/
def lines? (b : Building) : Nat → List Char → Option Table
  | _, [] => b.finish?
  | 0, _ => none
  | fuel + 1, cs =>
    match lineEnd? cs with
    | some rest => b.lines? fuel rest
    | none => do
      let (b, rest) ← b.line? cs
      b.lines? fuel rest

end Building

/-- The tree of a document. A byte order mark in front is no part of it. -/
def document? (text : List Char) : Option Table :=
  let body := match text with
    | '\uFEFF' :: cs => cs
    | cs => cs
  Building.start.lines? (body.length + 1) body

end InspectionHost.Toml
