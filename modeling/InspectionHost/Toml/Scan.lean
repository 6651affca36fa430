import InspectionHost.Text.Decimal
import InspectionHost.Text.Hex

/-!
# Words of a TOML document

Each reader takes the characters from some point on and gives what it read with the characters
behind it, or nothing when the grammar does not allow what stands there.

## Main definitions

* `skipBlanks`, `lineEnd?`, `skipLines?` : what stands between values.
* `basicString?`, `literalString?`, `string?` : the four forms of strings.
* `key?` : a dotted key.
* `dateTime?` : dates and times, with their ranges.
-/

namespace InspectionHost.Toml

open InspectionHost.Text

/-- The blanks inside a line. -/
def isLineBlank (c : Char) : Bool := c == ' ' || c == '\t'

/-- The characters behind the blanks. -/
def skipBlanks (cs : List Char) : List Char := cs.dropWhile isLineBlank

/-- The characters that may stand in comments and strings: all but control characters, and the
tab. -/
def isPlain (c : Char) : Bool :=
  c == '\t' || (0x20 ≤ c.toNat && c.toNat != 0x7F)

/-- The characters behind a line feed, or behind a carriage return and a line feed. -/
def newline? : List Char → Option (List Char)
  | '\n' :: cs => some cs
  | '\r' :: '\n' :: cs => some cs
  | _ => none

/-- The characters behind a comment, if there is one. -/
def skipComment : List Char → List Char
  | '#' :: cs => cs.dropWhile isPlain
  | cs => cs

/-- The characters behind the end of a line: blanks and a comment, then a line feed or the end
of the document. -/
def lineEnd? (cs : List Char) : Option (List Char) :=
  match skipComment (skipBlanks cs) with
  | [] => some []
  | cs => newline? cs

/-- The characters behind any blanks, comments and ends of lines, as they may stand between the
items of an array; `fuel` bounds the number of lines. -/
def skipLines (fuel : Nat) (cs : List Char) : List Char :=
  let cs := skipComment (skipBlanks cs)
  match fuel, newline? cs with
  | fuel + 1, some rest => skipLines fuel rest
  | _, _ => cs

/-- The characters behind any blanks and ends of lines; `fuel` bounds the number of lines. -/
def skipBlankLines (fuel : Nat) (cs : List Char) : List Char :=
  let cs := skipBlanks cs
  match fuel, newline? cs with
  | fuel + 1, some rest => skipBlankLines fuel rest
  | _, _ => cs

/-! ### Strings -/

/-- The character of the code point that exactly `width` hexadecimal digits denote. -/
def codePoint? (width : Nat) (cs : List Char) : Option (Char × List Char) :=
  let digits := cs.take width
  if digits.length = width then
    match Hex.value? digits with
    | some n =>
      if n < 0xD800 ∨ (0xDFFF < n ∧ n < 0x110000) then some (Char.ofNat n, cs.drop width)
      else none
    | none => none
  else none

/-- The character of an escape, from behind its backslash. -/
def escape? : List Char → Option (Char × List Char)
  | 'b' :: cs => some ('\x08', cs)
  | 't' :: cs => some ('\t', cs)
  | 'n' :: cs => some ('\n', cs)
  | 'f' :: cs => some ('\x0c', cs)
  | 'r' :: cs => some ('\r', cs)
  | '"' :: cs => some ('"', cs)
  | '\\' :: cs => some ('\\', cs)
  | 'u' :: cs => codePoint? 4 cs
  | 'U' :: cs => codePoint? 8 cs
  | _ => none

/-- The rest of a string in double quotes on one line, onto the characters read so far, the last
first; `fuel` bounds the number of characters. -/
def basicBody? (done : List Char) : Nat → List Char → Option (String × List Char)
  | 0, _ => none
  | fuel + 1, cs =>
    match cs with
    | [] => none
    | '"' :: rest => some (String.ofList done.reverse, rest)
    | '\\' :: rest =>
      match escape? rest with
      | some (c, rest) => basicBody? (c :: done) fuel rest
      | none => none
    | c :: rest => if isPlain c then basicBody? (c :: done) fuel rest else none

/-- A string in double quotes on one line. -/
def basicString? : List Char → Option (String × List Char)
  | '"' :: cs => basicBody? [] (cs.length + 1) cs
  | _ => none

/-- A string in single quotes on one line. Nothing is escaped in it. -/
def literalString? : List Char → Option (String × List Char)
  | '\'' :: cs =>
    let body := cs.takeWhile fun c => isPlain c && c != '\''
    match cs.drop body.length with
    | '\'' :: rest => some (String.ofList body, rest)
    | _ => none
  | _ => none

/-- The number of times that the characters begin with `quote`, and the characters behind. -/
def countQuotes (quote : Char) : List Char → Nat × List Char
  | [] => (0, [])
  | c :: cs =>
    if c = quote then ((countQuotes quote cs).1 + 1, (countQuotes quote cs).2) else (0, c :: cs)

/-- The rest of a string over several lines, onto the characters read so far, the last first.
Three quotes close it, and up to two more belong to it. An end of line is a line feed. Where
`escapes` are read, a backslash at the end of a line takes all blanks and ends of lines behind
it away, but no carriage return alone; `fuel` bounds the number of characters. -/
def multilineBody? (quote : Char) (escapes : Bool) (done : List Char) :
    Nat → List Char → Option (String × List Char)
  | 0, _ => none
  | fuel + 1, cs =>
    match cs with
    | [] => none
    | c :: rest =>
      if c = quote then
        match cs with
        | a :: b :: rest =>
          if a = quote ∧ b = quote then
            let (n, after) := countQuotes quote (rest.take 3)
            let after := after ++ rest.drop 3
            if n = 0 then multilineBody? quote escapes (b :: a :: done) fuel rest
            else
              some (String.ofList (List.replicate (n - 1) quote ++ done).reverse, after)
          else multilineBody? quote escapes (c :: done) fuel (b :: rest)
        | _ => none
      else if c = '\\' ∧ escapes then
        match newline? (skipBlanks rest) with
        | some behind =>
          multilineBody? quote escapes done fuel (skipBlankLines behind.length behind)
        | none =>
          match escape? rest with
          | some (c, rest) => multilineBody? quote escapes (c :: done) fuel rest
          | none => none
      else
        match newline? cs with
        | some rest => multilineBody? quote escapes ('\n' :: done) fuel rest
        | none =>
          if isPlain c then multilineBody? quote escapes (c :: done) fuel rest else none

/-- A string over several lines, from behind its three opening quotes. An end of line right
behind them does not belong to it. -/
def multilineString? (quote : Char) (escapes : Bool) (cs : List Char) :
    Option (String × List Char) :=
  let body := (newline? cs).getD cs
  multilineBody? quote escapes [] (body.length + 1) body

/-- A string in any of the four forms. -/
def string? : List Char → Option (String × List Char)
  | '"' :: '"' :: '"' :: cs => multilineString? '"' true cs
  | '\'' :: '\'' :: '\'' :: cs => multilineString? '\'' false cs
  | '"' :: cs => basicString? ('"' :: cs)
  | cs => literalString? cs

/-! ### Keys -/

/-- The characters of a key without quotes. -/
def isBareKeyChar (c : Char) : Bool :=
  c.isAlphanum || c == '_' || c == '-'

/-- One part of a dotted key. -/
def keyPart? : List Char → Option (String × List Char)
  | '"' :: cs => basicString? ('"' :: cs)
  | '\'' :: cs => literalString? ('\'' :: cs)
  | cs =>
    let bare := cs.takeWhile isBareKeyChar
    if bare.isEmpty then none else some (String.ofList bare, cs.drop bare.length)

/-- How deep arrays, inline tables and dotted keys may nest: less than this. -/
def depthLimit : Nat := 80

/-- The parts of a dotted key, with blanks around each; `fuel` bounds the number of parts. -/
def keyParts? : Nat → List Char → Option (List String × List Char)
  | 0, _ => none
  | fuel + 1, cs => do
    let (part, rest) ← keyPart? (skipBlanks cs)
    match skipBlanks rest with
    | '.' :: rest =>
      let (parts, rest) ← keyParts? fuel rest
      return (part :: parts, rest)
    | rest => return ([part], rest)

/-- A dotted key: the parts before the last, and the last. -/
def key? (cs : List Char) : Option ((List String × String) × List Char) := do
  let (parts, rest) ← keyParts? (depthLimit - 1) cs
  let last ← parts.getLast?
  return ((parts.dropLast, last), rest)

/-! ### Dates and times -/

/-- A number of exactly `width` decimal digits. -/
def fixedDigits? (width : Nat) (cs : List Char) : Option (Nat × List Char) :=
  let digits := cs.take width
  if digits.length = width then
    match Decimal.readDigits? digits with
    | some n => some (n, cs.drop width)
    | none => none
  else none

/-- A number of exactly `width` decimal digits between two bounds. -/
def boundedDigits? (width low high : Nat) (cs : List Char) : Option (Nat × List Char) := do
  let (n, rest) ← fixedDigits? width cs
  if low ≤ n ∧ n ≤ high then return (n, rest) else none

/-- The characters behind a given one. -/
def behind? (c : Char) : List Char → Option (List Char)
  | d :: cs => if d = c then some cs else none
  | [] => none

/-- Whether a year has a 29th of February. -/
def isLeapYear (year : Nat) : Bool :=
  year % 4 == 0 && (year % 100 != 0 || year % 400 == 0)

/-- The number of days of a month. -/
def daysIn (year month : Nat) : Nat :=
  if month = 2 then (if isLeapYear year then 29 else 28)
  else if month = 4 ∨ month = 6 ∨ month = 9 ∨ month = 11 then 30
  else 31

/-- The characters behind a date. -/
def date? (cs : List Char) : Option (List Char) := do
  let (year, cs) ← fixedDigits? 4 cs
  let (month, cs) ← boundedDigits? 2 1 12 (← behind? '-' cs)
  let (_, cs) ← boundedDigits? 2 1 (daysIn year month) (← behind? '-' cs)
  return cs

/-- The characters behind a time of day. -/
def time? (cs : List Char) : Option (List Char) := do
  let (_, cs) ← boundedDigits? 2 0 23 cs
  let (_, cs) ← boundedDigits? 2 0 59 (← behind? ':' cs)
  let (_, cs) ← boundedDigits? 2 0 60 (← behind? ':' cs)
  match cs with
  | '.' :: d :: rest =>
    if d.isDigit then return rest.dropWhile Char.isDigit else return cs
  | _ => return cs

/-- The characters behind an offset from universal time. -/
def timeOffset? : List Char → Option (List Char)
  | 'Z' :: cs => some cs
  | 'z' :: cs => some cs
  | sign :: cs =>
    if sign = '+' ∨ sign = '-' then do
      let (_, cs) ← boundedDigits? 2 0 23 cs
      let (_, cs) ← boundedDigits? 2 0 59 (← behind? ':' cs)
      return cs
    else none
  | [] => none

/-- The characters behind a date, a time, or both, with an offset behind both. -/
def dateTime? (cs : List Char) : Option (List Char) :=
  match date? cs with
  | some rest =>
    match rest with
    | delimiter :: behind =>
      if delimiter = 'T' ∨ delimiter = 't' ∨ delimiter = ' ' then
        match time? behind with
        | some rest => some ((timeOffset? rest).getD rest)
        | none => some rest
      else some rest
    | [] => some rest
  | none => time? cs

end InspectionHost.Toml
