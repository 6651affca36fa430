import InspectionHost.Text.Utf8

/-!
# Reading the lines of a client

The output of a client comes in pieces of bytes. A line ends at a line feed, and a carriage
return in front of it belongs to the end; the last line may have no end. A line is read lossily,
so that any bytes can be read.

## Main definitions

* `LineReader` : the lines read so far, and the bytes of the line being read.
* `LineReader.feed`, `LineReader.finish` : read a piece, and end the reading.
* `readLines` : the lines of pieces.

## Main results

* `feed_append` : it does not matter how the bytes are cut into pieces.
-/

namespace InspectionHost

/-- The state of reading lines. -/
structure LineReader where
  /-- The complete lines, the last first. -/
  complete : List String
  /-- The bytes of the line being read, the last first. -/
  current : List UInt8
  deriving DecidableEq, Repr

namespace LineReader

/-- Nothing is read yet. -/
def start : LineReader := ⟨[], []⟩

/-- The text of bytes that stand the last first. -/
def lineText (reversed : List UInt8) : String :=
  String.ofList (Text.Utf8.decodeLossy reversed.reverse)

/-- The bytes of a line, the last first, without a carriage return at the end. -/
def dropReturn : List UInt8 → List UInt8
  | b :: bs => if b = 0x0D then bs else b :: bs
  | [] => []

/-- Read one byte. -/
def feedByte (r : LineReader) (b : UInt8) : LineReader :=
  if b = 0x0A then ⟨lineText (dropReturn r.current) :: r.complete, []⟩
  else ⟨r.complete, b :: r.current⟩

/-- Read a piece. -/
def feed (r : LineReader) (piece : List UInt8) : LineReader :=
  piece.foldl feedByte r

/-- The lines, with the line being read as the last unless it has no bytes. -/
def finish (r : LineReader) : List String :=
  (if r.current.isEmpty then r.complete else lineText r.current :: r.complete).reverse

theorem feed_append (r : LineReader) (a b : List UInt8) :
    r.feed (a ++ b) = (r.feed a).feed b :=
  List.foldl_append

end LineReader

/-- The lines of an output that comes in pieces. -/
def readLines (pieces : List (List UInt8)) : List String :=
  (pieces.foldl LineReader.feed .start).finish

end InspectionHost
