import InspectionHost.Text.Blank
import Mathlib.Data.List.DropRight

/-!
# Trimmed texts

Blanks at the ends of a text do not matter to what trimming leaves of it, and a text that neither
begins nor ends with a blank is left alone. Words without blanks that a longer text begins with do
not reach over a blank in it.

## Main definitions

* `IsTrimmed` : a text neither begins nor ends with a blank.

## Main results

* `isTrimmed_trim` : trimming makes a text trimmed.
* `trim_append_of_allBlank`, `trim_append_of_allBlank_left` : blank ends do not matter.
* `exists_append_trim_append` : a text is what trimming leaves of it, between blanks.
* `head?_trimEnd`, `trimEnd_append` : the front of a text whose end is trimmed.
* `prefix_trimEnd_iff` : what ends visibly begins a text also without the blanks at its end.
* `prefix_append_iff` : words without blanks do not reach over a blank.
-/

namespace InspectionHost.Text

variable {p : Char → Bool} {front back word cs : List Char}

/-! ### The end of a text -/

theorem dropEndWhile_append_of_all (h : back.all p = true) :
    dropEndWhile p (front ++ back) = dropEndWhile p front := by
  rw [dropEndWhile, List.reverse_append, List.dropWhile_append_of_pos (by simpa using h),
    dropEndWhile]

theorem dropEndWhile_append (h : back.all p = false) :
    dropEndWhile p (front ++ back) = front ++ dropEndWhile p back := by
  have hback : back.reverse.dropWhile p ≠ [] := by
    rw [ne_eq, dropWhile_eq_nil_iff, List.all_reverse, h]
    exact Bool.false_ne_true
  rw [dropEndWhile, List.reverse_append, List.dropWhile_append, if_neg (by simpa using hback),
    List.reverse_append, List.reverse_reverse, dropEndWhile]

/-- The end of a text is not trimmed exactly if the text does not end with a blank. -/
theorem trimEnd_eq_self_iff : trimEnd cs = cs ↔ ∀ c ∈ cs.getLast?, isBlank c = false := by
  induction cs using List.reverseRecOn with
  | nil => simp [trimEnd, dropEndWhile]
  | append_singleton cs c =>
    rw [List.getLast?_concat]
    by_cases h : isBlank c
    · have hshort : (trimEnd (cs ++ [c])).length ≤ cs.length := by
        rw [trimEnd, dropEndWhile_append_of_all (by simpa using h)]
        exact (List.rdropWhile_prefix isBlank cs).length_le
      have hne : trimEnd (cs ++ [c]) ≠ cs ++ [c] := by
        intro same
        rw [same, List.length_append, List.length_singleton] at hshort
        omega
      simp [hne, h]
    · have hsame : trimEnd (cs ++ [c]) = cs ++ [c] := by
        rw [trimEnd, dropEndWhile_append (by simpa using h)]
        simp [dropEndWhile, h]
      simp [hsame, h]

theorem exists_trimEnd_append (cs : List Char) :
    ∃ blanks, allBlank blanks = true ∧ cs = trimEnd cs ++ blanks :=
  ⟨cs.rtakeWhile isBlank, by simpa [allBlank] using fun _ => List.mem_rtakeWhile_imp,
    (List.rdropWhile_append_rtakeWhile (p := isBlank)).symm⟩

/-- What is left of a text begins as the text does. -/
theorem head?_trimEnd (cs : List Char) : trimEnd cs = [] ∨ (trimEnd cs).head? = cs.head? := by
  obtain ⟨blanks, -, hcs⟩ := exists_trimEnd_append cs
  cases hleft : trimEnd cs with
  | nil => exact .inl rfl
  | cons c rest =>
    rw [hleft] at hcs
    exact .inr (by rw [hcs, List.cons_append, List.head?_cons, List.head?_cons])

/-- Behind words that end visibly, the end of a text is trimmed by itself. -/
theorem trimEnd_append (closed : ∀ c ∈ word.getLast?, isBlank c = false) :
    trimEnd (word ++ cs) = word ++ trimEnd cs := by
  by_cases h : cs.all isBlank = true
  · rw [trimEnd, dropEndWhile_append_of_all h, trimEnd, dropEndWhile_eq_nil_iff.2 h,
      List.append_nil]
    exact trimEnd_eq_self_iff.2 closed
  · rw [trimEnd, dropEndWhile_append (by simpa using h), trimEnd]

/-- What ends visibly and begins a text begins it also without the blanks at its end. -/
theorem prefix_trimEnd_iff (closed : ∀ c ∈ word.getLast?, isBlank c = false) :
    word <+: trimEnd cs ↔ word <+: cs := by
  constructor
  · exact fun h => h.trans (List.rdropWhile_prefix isBlank cs)
  · rintro ⟨rest, rfl⟩
    rw [trimEnd_append closed]
    exact List.prefix_append word _

/-! ### Both ends -/

/-- Blanks in front of a text do not matter. -/
theorem trim_append_of_allBlank_left (h : allBlank front = true) (cs : List Char) :
    trim (front ++ cs) = trim cs := by
  rw [trim, trimStart, List.dropWhile_append_of_pos (by simpa [allBlank] using h), trim, trimStart]

/-- Blanks behind a text do not matter. -/
theorem trim_append_of_allBlank (h : allBlank back = true) (cs : List Char) :
    trim (cs ++ back) = trim cs := by
  rw [trim, trimStart, List.dropWhile_append]
  split
  · next none =>
    have hcs : trimStart cs = [] := by simpa [trimStart] using none
    rw [trim, hcs, dropWhile_eq_nil_iff.2 h]
  · rw [trimEnd, dropEndWhile_append_of_all h, trim, trimStart, trimEnd]

theorem trim_trimEnd (cs : List Char) : trim (trimEnd cs) = trim cs := by
  obtain ⟨blanks, hblanks, hcs⟩ := exists_trimEnd_append cs
  rw [hcs, trim_append_of_allBlank hblanks, ← hcs]

theorem trim_eq_trimEnd (visible : ∀ c ∈ cs.head?, isBlank c = false) : trim cs = trimEnd cs := by
  rw [trim, trimStart_eq_self_iff.2 visible]

/-- A text neither begins nor ends with a blank. -/
structure IsTrimmed (cs : List Char) : Prop where
  visible : ∀ c ∈ cs.head?, isBlank c = false
  closed : ∀ c ∈ cs.getLast?, isBlank c = false

theorem visible_trimStart (cs : List Char) : ∀ c ∈ (trimStart cs).head?, isBlank c = false := by
  intro c hc
  have hne : trimStart cs ≠ [] := List.ne_nil_of_mem (List.mem_of_mem_head? hc)
  obtain rfl : (trimStart cs).head hne = c := List.head_of_mem_head? hc
  exact List.head_dropWhile_not isBlank hne

/-- Trimming leaves a text that neither begins nor ends with a blank. -/
theorem isTrimmed_trim (cs : List Char) : IsTrimmed (trim cs) where
  visible c hc := by
    obtain ⟨rest, hrest⟩ : trim cs <+: trimStart cs := List.rdropWhile_prefix isBlank _
    refine visible_trimStart cs c ?_
    rw [← hrest]
    exact List.mem_head?_append_of_mem_head? hc
  closed := trimEnd_eq_self_iff.1 (List.rdropWhile_idempotent isBlank (trimStart cs))

/-- A text is what trimming leaves of it, between blanks. -/
theorem exists_append_trim_append (cs : List Char) :
    ∃ front back, allBlank front = true ∧ allBlank back = true ∧ cs = front ++ trim cs ++ back := by
  obtain ⟨back, hback, hcs⟩ := exists_trimEnd_append (trimStart cs)
  refine ⟨cs.takeWhile isBlank, back, List.all_takeWhile, hback, ?_⟩
  rw [List.append_assoc, trim, ← hcs]
  exact List.takeWhile_append_dropWhile.symm

theorem IsTrimmed.trim_append (h : IsTrimmed cs) (hfront : allBlank front = true)
    (hback : allBlank back = true) : trim (front ++ cs ++ back) = cs := by
  rw [trim_append_of_allBlank hback, trim_append_of_allBlank_left hfront, trim_eq_trimEnd h.visible,
    trimEnd_eq_self_iff.2 h.closed]

/-! ### Words without blanks -/

/-- What a text in two parts begins with is in the first part, or the second part begins with what
the first leaves of it. -/
theorem prefix_append_cases (h : word <+: front ++ back) :
    word <+: front ∨ ∃ c cs, word = front ++ c :: cs ∧ c :: cs <+: back := by
  rcases List.prefix_or_prefix_of_prefix h (List.prefix_append front back) with
    inside | ⟨_ | ⟨c, cs⟩, rfl⟩
  · exact .inl inside
  · exact .inl (by simp)
  · exact .inr ⟨c, cs, rfl, (List.prefix_append_right_inj front).1 h⟩

/-- Words without blanks do not reach over a blank. -/
theorem prefix_append_iff (solid : word.any isBlank = false)
    (parted : ∀ c ∈ back.head?, isBlank c = true) : word <+: front ++ back ↔ word <+: front := by
  refine ⟨fun h => ?_, fun h => h.trans (List.prefix_append front back)⟩
  rcases prefix_append_cases h with inside | ⟨c, cs, rfl, more, rfl⟩
  · exact inside
  · have hblank : isBlank c = true := parted c (by simp)
    exact absurd hblank (List.any_eq_false.1 solid c (by simp))

end InspectionHost.Text
