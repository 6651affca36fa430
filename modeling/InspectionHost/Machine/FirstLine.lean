import InspectionHost.Text.Blank
import InspectionHost.Text.Utf8

/-!
# First lines that name a program

A file that begins with a number sign and an exclamation mark names in its first line the program
that reads it, and perhaps one argument for that program. Only a window at the start of the file
is looked at, with NULs behind the end of a shorter file, and a NUL ends the texts in it. A line
that ends in the window loses the blanks at its end. A line that does not may lose a part of its
argument, but not of the name of the program.

## Main definitions

* `ProgramLine` : the name of a program, and its argument.
* `ProgramLine.ofContent?` : what the first line of a file names.
-/

namespace InspectionHost

/-- The name of a program, and its argument. -/
structure ProgramLine where
  program : String
  argument : Option String
  deriving DecidableEq, Repr

namespace ProgramLine

/-- How many bytes of a file are looked at. -/
def window : Nat := 256

/-- A space or a tab. -/
def isGap (b : UInt8) : Bool := b == 0x20 || b == 0x09

/-- A byte that ends the name of a program: a space, a tab or a NUL. -/
def endsName (b : UInt8) : Bool := isGap b || b == 0

/-- The bytes without the spaces and tabs at their end. -/
def dropGapEnd (bytes : List UInt8) : List UInt8 :=
  (bytes.reverse.dropWhile isGap).reverse

/-- The text of bytes up to a NUL. -/
def textOf (bytes : List UInt8) : String :=
  String.ofList (Text.Utf8.decodeLossy (bytes.takeWhile (· != 0)))

/-- What a line names, from behind its two signs. -/
def ofLine? (line : List UInt8) : Option ProgramLine :=
  match line.dropWhile isGap with
  | [] => none
  | b :: bs =>
    let name := (b :: bs).takeWhile fun b => !endsName b
    let rest := (b :: bs).drop name.length
    some ⟨textOf name,
      if rest.head?.any isGap then some (textOf (rest.dropWhile isGap)) else none⟩

/-- What the first line of a file names. -/
def ofContent? (content : List UInt8) : Option ProgramLine :=
  match (content ++ List.replicate window 0).take window with
  | 0x23 :: 0x21 :: rest =>
    let line := rest.takeWhile fun b => b != 0x0A && b != 0
    if rest[line.length]? == some 0x0A then ofLine? (dropGapEnd line)
    else if (rest.dropWhile isGap).any endsName then ofLine? (dropGapEnd rest.dropLast)
    else none
  | _ => none

end ProgramLine

end InspectionHost
