/-!
# Trees of a TOML document

A document is a tree of tables. Headers and dotted keys build it piece by piece, and a table
remembers how it came to be, because that decides how it may grow: a table defined under its
own header or between braces is complete, while one that only lies on the way to another may
still be defined.

## Main definitions

* `Node`, `Table` : values, tables and arrays of tables.
* `Table.descend?` : change the table at the end of a path, making tables on the way.
* `Table.put?` : enter a key with its value.
* `Table.open?`, `Table.close?` : take a table out under its header, and put it back.
* `Table.openArray?`, `Table.closeArray?` : the same for the tables of repeated headers.
-/

namespace InspectionHost.Toml

/-- How a table came to be. -/
structure Origin where
  /-- It lies on the way to a table that was named, and was not named itself. -/
  implicit : Bool
  /-- A dotted key made it. -/
  dotted : Bool
  deriving DecidableEq, Repr

/-- A value of a document. -/
inductive Node where
  | text (s : String)
  | integer (n : Int)
  | float
  | boolean (b : Bool)
  | dateTime
  | array (items : List Node)
  /-- A table between braces. -/
  | inline (origin : Origin) (entries : List (String × Node))
  /-- A table of headers and dotted keys. -/
  | table (origin : Origin) (entries : List (String × Node))
  /-- The tables of repeated headers, in order. -/
  | tables (each : List (Origin × List (String × Node)))
  deriving Repr

/-- A table: how it came to be, and its entries in order. -/
structure Table where
  origin : Origin
  entries : List (String × Node)
  deriving Repr

namespace Table

/-- An empty table that is named. -/
def empty : Table := ⟨⟨false, false⟩, []⟩

/-- The value of a key. -/
def get? (t : Table) (key : String) : Option Node :=
  (t.entries.find? fun entry => entry.1 == key).map Prod.snd

/-- The table with a value for a key, in the place of the key's old value if there is one. -/
def set (t : Table) (key : String) (node : Node) : Table :=
  if t.entries.any fun entry => entry.1 == key then
    { t with entries := t.entries.map fun entry => if entry.1 == key then (key, node) else entry }
  else { t with entries := t.entries ++ [(key, node)] }

/-- The table without a key. -/
def erase (t : Table) (key : String) : Table :=
  { t with entries := t.entries.filter fun entry => entry.1 != key }

/-- Change the table at the end of a path with `f`, and hand on what `f` finds there. A table
that is missing on the way is made, as implicit; `braces` tells whether the tables lie between
braces, and `dotted` whether a dotted key asks for them. A dotted key does not lead through a
table that was named. -/
def descend? {α : Type} (braces dotted : Bool) (f : Table → Option (α × Table)) :
    List String → Table → Option (α × Table)
  | [], t => f t
  | key :: path, t => do
    let made (inner : Table) : Node :=
      if braces then .inline inner.origin inner.entries else .table inner.origin inner.entries
    match t.get? key with
    | none =>
      let (found, inner) ← descend? braces dotted f path ⟨⟨true, dotted⟩, []⟩
      return (found, t.set key (made inner))
    | some (.inline origin entries) =>
      if braces && !(dotted && !origin.implicit) then
        let (found, inner) ← descend? braces dotted f path ⟨origin, entries⟩
        return (found, t.set key (made inner))
      else none
    | some (.table origin entries) =>
      if !braces && !(dotted && !origin.implicit) then
        let (found, inner) ← descend? braces dotted f path ⟨origin, entries⟩
        return (found, t.set key (made inner))
      else none
    | some (.tables each) =>
      if braces then none
      else match each.getLast? with
        | none => none
        | some (origin, entries) =>
          let (found, inner) ← descend? braces dotted f path ⟨origin, entries⟩
          return (found, t.set key (.tables (each.dropLast ++ [(inner.origin, inner.entries)])))
    | some _ => none

/-- Enter a value under a dotted key. The table that takes it has to be made by dotted keys when
there are dots and must not be when there are none, and it must not have the key. -/
def put? (braces : Bool) (path : List String) (key : String) (node : Node) (t : Table) :
    Option Table :=
  (descend? braces (!path.isEmpty) (fun inner =>
    if inner.origin.dotted == path.isEmpty then none
    else if (inner.get? key).isSome then none
    else some ((), inner.set key node)) path t).map Prod.snd

/-- Take the table that a header names out of the tree: a new one, or one that only lay on the
way to another. The result is the table, now named, and the tree without it. -/
def open? (path : List String) (key : String) (t : Table) : Option (Table × Table) :=
  descend? false false (fun inner =>
    match inner.get? key with
    | none => some (empty, inner)
    | some (.table ⟨true, false⟩ entries) => some ({ empty with entries }, inner.erase key)
    | some _ => none) path t

/-- Put the table that a header named into the tree. -/
def close? (t : Table) (path : List String) (key : String) (named : Table) : Option Table :=
  (descend? false false (fun inner =>
    match inner.get? key with
    | none => some ((), inner.set key (.table named.origin named.entries))
    | some _ => none) path t).map Prod.snd

/-- Make an array of tables where a repeated header asks for one, unless it is there. -/
def openArray? (path : List String) (key : String) (t : Table) : Option Table :=
  (descend? false false (fun inner =>
    match inner.get? key with
    | none => some ((), inner.set key (.tables []))
    | some (.tables _) => some ((), inner)
    | some _ => none) path t).map Prod.snd

/-- Add a table to an array of tables. -/
def closeArray? (t : Table) (path : List String) (key : String) (named : Table) :
    Option Table :=
  (descend? false false (fun inner =>
    match inner.get? key with
    | some (.tables each) =>
      some ((), inner.set key (.tables (each ++ [(named.origin, named.entries)])))
    | _ => none) path t).map Prod.snd

end Table

end InspectionHost.Toml
