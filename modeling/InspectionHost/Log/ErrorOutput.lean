import InspectionHost.Client.LineReader
import InspectionHost.Log.Record

/-!
# The error output

Log records, closing errors and what the server writes share one output. It is read line by
line: a line ends at a line feed, with a carriage return in front of it if there is one, and the
last line may have no end. A record has a line of its own only if the line before it is
complete.

## Main definitions

* `ErrorPiece` : what is written at once.
* `ErrorLine` : a line, or a record on a line of its own.
* `ErrorOutput` : the lines that are complete and the one being written.
* `ErrorOutput.ofPieces` : the lines of what is written.
-/

namespace InspectionHost.Log

/-- What is written at once. -/
inductive ErrorPiece where
  | bytes (bytes : List UInt8)
  /-- A record as JSON with the end of its line. -/
  | record (record : LogRecord)

namespace ErrorPiece

/-- A text. -/
def ofText (text : String) : ErrorPiece :=
  .bytes (Text.Utf8.encode text.toList)

/-- A record in a format. -/
def ofRecord (format : LogFormat) (r : LogRecord) : ErrorPiece :=
  match format with
  | .json => .record r
  | .text styled => ofText (r.text styled ++ "\n")

end ErrorPiece

/-- A line of the error output. -/
inductive ErrorLine where
  | text (line : String)
  | record (record : LogRecord)
  deriving DecidableEq, Repr

/-- The error output as far as it is written. -/
structure ErrorOutput where
  /-- The complete lines, the last first. -/
  complete : List ErrorLine
  /-- The bytes of the line being written, the last first. -/
  current : List UInt8

namespace ErrorOutput

/-- Nothing is written. -/
def empty : ErrorOutput := ⟨[], []⟩

/-- Write one byte. -/
def writeByte (o : ErrorOutput) (b : UInt8) : ErrorOutput :=
  if b = 0x0A then
    ⟨.text (LineReader.lineText (LineReader.dropReturn o.current)) :: o.complete, []⟩
  else ⟨o.complete, b :: o.current⟩

/-- Write a piece. A record behind other bytes on its line is no record any more. -/
def write (o : ErrorOutput) : ErrorPiece → ErrorOutput
  | .bytes bytes => bytes.foldl writeByte o
  | .record r =>
    if o.current.isEmpty then { o with complete := .record r :: o.complete }
    else ⟨.text (LineReader.lineText o.current ++ r.json) :: o.complete, []⟩

/-- The lines, with the line being written as the last unless it has no bytes. -/
def finish (o : ErrorOutput) : List ErrorLine :=
  (if o.current.isEmpty then o.complete
    else .text (LineReader.lineText o.current) :: o.complete).reverse

/-- The lines of what is written. -/
def ofPieces (pieces : List ErrorPiece) : List ErrorLine :=
  (pieces.foldl write empty).finish

end ErrorOutput

end InspectionHost.Log
