import InspectionHost.Json.Text
import InspectionHost.Text.Decimal
import InspectionHost.Text.Quoted

/-!
# Log records

A record tells what happened: how grave it is, what part of the program it comes from, a message,
and named fields. It is written as a JSON object on a line of its own, or as text.

In text the control characters with which a message could steer a terminal are written by their
code points, but line ends are not, so that a message can go on over several lines.

## Main definitions

* `Level` : how grave a record is.
* `LogField`, `LogRecord` : records and their fields.
* `LogFormat` : how records are written.
* `LogRecord.json`, `LogRecord.text` : the written forms of a record.
-/

namespace InspectionHost.Log

open InspectionHost.Text

/-- How grave a record is. -/
inductive Level where
  | error | warn | info | debug | trace
  deriving DecidableEq, Repr

namespace Level

/-- The levels in numbers; the gravest is the least. -/
def rank : Level → Nat
  | error => 1
  | warn => 2
  | info => 3
  | debug => 4
  | trace => 5

/-- The name of a level in a record. -/
def name : Level → String
  | error => "ERROR"
  | warn => "WARN"
  | info => "INFO"
  | debug => "DEBUG"
  | trace => "TRACE"

end Level

/-- A named value of a record. -/
structure LogField where
  name : String
  value : String
  /-- Whether the value stands between quotes in text. -/
  quoted : Bool
  deriving DecidableEq, Repr

/-- A record of the log. -/
structure LogRecord where
  level : Level
  /-- The part of the program that the record comes from. -/
  target : String
  message : String
  fields : List LogField
  deriving DecidableEq, Repr

/-- How records are written. -/
inductive LogFormat where
  /-- As JSON. -/
  | json
  /-- As text, with the names of fields in a style of their own or not. -/
  | text (styled : Bool)
  deriving DecidableEq, Repr

namespace LogRecord

/-- The names of the fields; the message is one. -/
def fieldNames (r : LogRecord) : List String :=
  "message" :: r.fields.map LogField.name

/-- The value of a field other than the message. -/
def field? (r : LogRecord) (name : String) : Option String :=
  (r.fields.find? fun f => f.name == name).map LogField.value

/-- A record as a JSON object. -/
def json (r : LogRecord) : String :=
  let text (s : String) : List Char := Json.quote s.toList
  let fields := ("message", text r.message) :: r.fields.map fun f => (f.name, text f.value)
  String.ofList (Json.object [("level", text r.level.name), ("fields", Json.object fields),
    ("target", text r.target)])

/-- A character of a message in text. -/
def escapeControl (c : Char) : List Char :=
  if c = '\x07' ∨ c = '\x08' ∨ c = '\x0c' ∨ c = '\x1b' ∨ c = '\x7f' then
    '\\' :: 'x' :: Hex.padded 2 c.toNat
  else if 0x80 ≤ c.toNat ∧ c.toNat < 0xA0 then
    '\\' :: 'u' :: '\x7b' :: Hex.digits c.toNat ++ ['\x7d']
  else [c]

/-- A field in text: italics for the name and a dim equals sign if styles are wanted. -/
def fieldText (styled : Bool) (f : LogField) : String :=
  let value := if f.quoted then Quoted.quote f.value else f.value
  if styled then "\x1b[3m" ++ f.name ++ "\x1b[0m\x1b[2m=\x1b[0m" ++ value
  else f.name ++ "=" ++ value

/-- A record as text: the level, the message, and the fields behind it. -/
def text (styled : Bool) (r : LogRecord) : String :=
  " ".intercalate (r.level.name :: String.ofList (r.message.toList.flatMap escapeControl) ::
    r.fields.map (fieldText styled))

end LogRecord

end InspectionHost.Log
