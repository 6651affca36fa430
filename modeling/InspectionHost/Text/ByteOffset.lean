/-!
# Places in a text by bytes

A place in a text can be given by the number of bytes that the UTF-8 form of the characters
before it takes. Such a number means no place if it falls within a character or behind the end.

## Main definitions

* `dropBytes?`, `takeBytes?` : the two sides of a place.
* `sliceBytes?` : what stands between two places.
-/

namespace InspectionHost.Text

/-- The text behind its first `n` bytes. -/
def dropBytes? : Nat → List Char → Option (List Char)
  | 0, cs => some cs
  | _ + 1, [] => none
  | n + 1, c :: cs => if c.utf8Size ≤ n + 1 then dropBytes? (n + 1 - c.utf8Size) cs else none

/-- The first `n` bytes of a text. -/
def takeBytes? : Nat → List Char → Option (List Char)
  | 0, _ => some []
  | _ + 1, [] => none
  | n + 1, c :: cs =>
    if c.utf8Size ≤ n + 1 then (takeBytes? (n + 1 - c.utf8Size) cs).map (c :: ·) else none

/-- What stands between two places of a text. -/
def sliceBytes? (first last : Nat) (cs : List Char) : Option (List Char) := do
  takeBytes? (last - first) (← dropBytes? first cs)

/-- As many characters of a text as fit `n` bytes. -/
def fitBytes : Nat → List Char → List Char
  | _, [] => []
  | n, c :: cs => if c.utf8Size ≤ n then c :: fitBytes (n - c.utf8Size) cs else []

end InspectionHost.Text
