/-!
# Blank characters

A character is blank when it has the Unicode property `White_Space`. A pattern, a candidate
or a line counts as empty when all its characters are blank, and text is trimmed of blank
characters only.

## Main definitions

* `isBlank` : the property `White_Space`.
* `trimStart`, `trimEnd`, `trim` : a text without its blank ends.
* `allBlank` : a text of blank characters only.

## Main results

* `trim_eq_nil_iff` : a text trims to nothing exactly when it is all blank.
* `trimStart_eq_self_iff` : trimming leaves a text that begins with no blank alone.
-/

namespace InspectionHost.Text

/-- The characters with the Unicode property `White_Space`. -/
def isBlank (c : Char) : Bool :=
  let n := c.toNat
  (0x09 ≤ n && n ≤ 0x0D) || n == 0x20 || n == 0x85 || n == 0xA0 || n == 0x1680 ||
    (0x2000 ≤ n && n ≤ 0x200A) || n == 0x2028 || n == 0x2029 || n == 0x202F || n == 0x205F ||
    n == 0x3000

/-- The text from its first character that is not blank. -/
def trimStart (cs : List Char) : List Char :=
  cs.dropWhile isBlank

/-- The text up to the last character outside the class `p`. -/
def dropEndWhile (p : Char → Bool) (cs : List Char) : List Char :=
  (cs.reverse.dropWhile p).reverse

/-- The text up to its last character that is not blank. -/
def trimEnd (cs : List Char) : List Char :=
  dropEndWhile isBlank cs

/-- The text without the blank characters at both ends. -/
def trim (cs : List Char) : List Char :=
  trimEnd (trimStart cs)

/-- Whether every character is blank; the empty text is. -/
def allBlank (cs : List Char) : Bool :=
  cs.all isBlank

/-- The characters that end a line. -/
def isLineEnd (c : Char) : Bool :=
  c == '\n' || c == '\r'

/-- The text of a line without the line feeds and carriage returns at its end. -/
def dropLineEnd (cs : List Char) : List Char :=
  dropEndWhile isLineEnd cs

/-! ### Small facts -/

theorem isBlank_of_isLineEnd {c : Char} (h : isLineEnd c = true) : isBlank c = true := by
  simp only [isLineEnd, Bool.or_eq_true, beq_iff_eq] at h
  rcases h with rfl | rfl <;> decide

theorem dropWhile_eq_nil_iff {p : Char → Bool} {cs : List Char} :
    cs.dropWhile p = [] ↔ cs.all p = true := by
  induction cs with
  | nil => simp
  | cons c cs ih => by_cases h : p c <;> simp [h, ih]

theorem dropEndWhile_eq_nil_iff {p : Char → Bool} {cs : List Char} :
    dropEndWhile p cs = [] ↔ cs.all p = true := by
  rw [dropEndWhile, List.reverse_eq_nil_iff, dropWhile_eq_nil_iff, List.all_reverse]

theorem trimStart_eq_nil_iff {cs : List Char} : trimStart cs = [] ↔ allBlank cs = true :=
  dropWhile_eq_nil_iff

theorem trim_eq_nil_iff {cs : List Char} : trim cs = [] ↔ allBlank cs = true := by
  rw [trim, trimEnd, dropEndWhile_eq_nil_iff]
  constructor
  · intro h
    have hs := cs.takeWhile_append_dropWhile (p := isBlank)
    rw [allBlank, ← hs, List.all_append]
    simp only [Bool.and_eq_true]
    exact ⟨by simp [List.all_takeWhile], h⟩
  · intro h
    rw [trimStart_eq_nil_iff.2 h]
    rfl

theorem trimStart_eq_self_iff {cs : List Char} :
    trimStart cs = cs ↔ ∀ c ∈ cs.head?, isBlank c = false := by
  cases cs with
  | nil => simp [trimStart]
  | cons c cs =>
    by_cases h : isBlank c
    · simp only [trimStart, List.dropWhile_cons, h, if_true, List.head?_cons, Option.mem_some_iff,
        forall_eq']
      constructor
      · intro e
        have := congrArg List.length e
        have le := (List.dropWhile_sublist (l := cs) isBlank).length_le
        simp only [List.length_cons] at this
        omega
      · simp
    · simp [trimStart, h]

end InspectionHost.Text
