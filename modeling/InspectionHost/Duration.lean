import InspectionHost.Text.Decimal

/-!
# Spans of time

A span of time is a number of nanoseconds. Structure dumps show it in the largest unit of which
it holds at least one, with the decimals that are needed and no more.

A clock reads nanoseconds as well. It counts whole seconds with 63 bits, so a span of time may
lead beyond all its readings.

## Main definitions

* `Duration` : a span of time, with its conversions from and to milliseconds and seconds.
* `Duration.dump` : the text of a span of time in a structure dump.
* `Clock.add?` : the reading of the clock a span of time later.

## Main results

* `Clock.add?_eq_some_iff`, `Clock.add?_eq_none_iff` : which readings there are.
-/

namespace InspectionHost

/-- A span of time in nanoseconds. -/
structure Duration where
  nanos : Nat
  deriving DecidableEq, Repr

namespace Duration

/-- So many whole seconds. -/
def ofSeconds (n : Nat) : Duration := ⟨n * 1000000000⟩

/-- So many whole milliseconds. -/
def ofMillis (n : Nat) : Duration := ⟨n * 1000000⟩

/-- The whole seconds of a span of time. -/
def seconds (d : Duration) : Nat := d.nanos / 1000000000

/-- The nanoseconds of a span of time beyond its whole seconds. -/
def subsecNanos (d : Duration) : Nat := d.nanos % 1000000000

/-- The whole milliseconds of a span of time. -/
def millis (d : Duration) : Nat := d.nanos / 1000000

/-- The first `width` decimals of `n / scale`, where `n < scale`, without zeros at the end. -/
def decimals (n scale : Nat) : Nat → List Char
  | 0 => []
  | width + 1 =>
    if n = 0 then []
    else Text.Decimal.digitChar (n * 10 / scale) :: decimals (n * 10 % scale) scale width

/-- `n / scale` in decimal digits followed by the name of the unit. -/
def inUnit (n scale width : Nat) (name : String) : String :=
  let fraction := decimals (n % scale) scale width
  Text.Decimal.print (n / scale) ++
    (if fraction.isEmpty then "" else "." ++ String.ofList fraction) ++ name

/-- The text of a span of time in a structure dump. -/
def dump (d : Duration) : String :=
  if 1000000000 ≤ d.nanos then inUnit d.nanos 1000000000 9 "s"
  else if 1000000 ≤ d.nanos then inUnit d.nanos 1000000 6 "ms"
  else if 1000 ≤ d.nanos then inUnit d.nanos 1000 3 "µs"
  else inUnit d.nanos 1 0 "ns"

end Duration

namespace Clock

/-- The first number of nanoseconds that is no reading of the clock, which counts seconds below
`2 ^ 63`. -/
def limit : Nat := 9223372036854775808 * 1000000000

/-- The reading of the clock a span of time later, if there is one. -/
def add? (now : Nat) (d : Duration) : Option Nat :=
  if now + d.nanos < limit then some (now + d.nanos) else none

theorem add?_eq_some_iff {now later : Nat} {d : Duration} :
    add? now d = some later ↔ later = now + d.nanos ∧ later < limit := by
  unfold add?
  split
  · simp only [Option.some.injEq]
    omega
  · simp only [reduceCtorEq, false_iff]
    omega

theorem add?_eq_none_iff {now : Nat} {d : Duration} :
    add? now d = none ↔ limit ≤ now + d.nanos := by
  simp [add?]

end Clock

end InspectionHost
