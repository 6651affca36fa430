import InspectionHost.Proofs.Text.Utf8
import InspectionHost.Session.Loop

/-!
# Lines of a text

A text is cut behind each of its line feeds, and what is left behind the last one is a line as
well, unless it is empty. A session cuts the bytes of its input in the same way, and the lines of
an encoded text are the encoded lines of the text.

## Main definitions

* `cutBehind` : a list, cut behind each element of one kind.

## Main results

* `flatten_cutBehind` : nothing is lost.
* `cutBehind_append` : a line that ends is cut off.
* `cutBehind_flatten_erase` : a text without one of its lines.
* `splitLines_encode` : the lines of an encoded text.
-/

namespace InspectionHost.Session

open InspectionHost.Text

variable {α : Type} [DecidableEq α] (mark : α)

/-- Lines with something in front of the first of them. -/
def growFirst (front : List α) : List (List α) → List (List α)
  | [] => if front.isEmpty then [] else [front]
  | line :: lines => (front ++ line) :: lines

/-- A list, cut behind each mark. The last part has a mark or is not empty. -/
def cutBehind : List α → List (List α)
  | [] => []
  | a :: as => if a = mark then [a] :: cutBehind as else growFirst [a] (cutBehind as)

omit [DecidableEq α] in
@[simp] theorem growFirst_nil (lines : List (List α)) : growFirst [] lines = lines := by
  cases lines <;> rfl

omit [DecidableEq α] in
@[simp] theorem growFirst_cons (front line : List α) (lines : List (List α)) :
    growFirst front (line :: lines) = (front ++ line) :: lines :=
  rfl

omit [DecidableEq α] in
theorem growFirst_append (front back : List α) (lines : List (List α)) :
    growFirst (front ++ back) lines = growFirst front (growFirst back lines) := by
  cases lines with
  | nil => cases back <;> simp [growFirst]
  | cons line lines => simp

omit [DecidableEq α] in
theorem flatten_growFirst (front : List α) (lines : List (List α)) :
    (growFirst front lines).flatten = front ++ lines.flatten := by
  cases lines with
  | nil => cases front <;> simp [growFirst]
  | cons line lines => simp

/-- Nothing is lost. -/
theorem flatten_cutBehind (as : List α) : (cutBehind mark as).flatten = as := by
  induction as with
  | nil => rfl
  | cons a as ih =>
    rw [cutBehind]
    split
    · simp [ih]
    · simp [flatten_growFirst, ih]

variable {mark}

theorem cutBehind_append_of_notMem {front : List α} (h : mark ∉ front) (rest : List α) :
    cutBehind mark (front ++ rest) = growFirst front (cutBehind mark rest) := by
  induction front with
  | nil => simp
  | cons a front ih =>
    obtain ⟨ha, hfront⟩ : mark ≠ a ∧ mark ∉ front := by simpa using h
    rw [List.cons_append, cutBehind, if_neg ha.symm, ih hfront, ← growFirst_append]
    rfl

/-- A line that ends is cut off. -/
theorem cutBehind_append {body : List α} (h : mark ∉ body) (rest : List α) :
    cutBehind mark (body ++ mark :: rest) = (body ++ [mark]) :: cutBehind mark rest := by
  rw [cutBehind_append_of_notMem h, cutBehind, if_pos rfl]
  rfl

theorem cutBehind_flatten_append {lines : List (List α)}
    (h : ∀ line ∈ lines, ∃ body, mark ∉ body ∧ line = body ++ [mark]) (rest : List α) :
    cutBehind mark (lines.flatten ++ rest) = lines ++ cutBehind mark rest := by
  induction lines with
  | nil => rfl
  | cons line lines ih =>
    obtain ⟨⟨body, hbody, rfl⟩, hlines⟩ := List.forall_mem_cons.1 h
    rw [List.flatten_cons, List.append_assoc, List.append_assoc, List.singleton_append,
      cutBehind_append hbody, ih hlines, List.cons_append]

/-- The first line of a text ends in its only mark if another line follows, and the lines behind it
are those of the rest of the text. -/
theorem of_cutBehind_eq_cons {as line : List α} {lines : List (List α)}
    (cut : cutBehind mark as = line :: lines) :
    mark ∉ line.dropLast ∧ (lines ≠ [] → line = line.dropLast ++ [mark]) ∧
      cutBehind mark lines.flatten = lines := by
  induction as generalizing line lines with
  | nil => simp [cutBehind] at cut
  | cons a as ih =>
    rw [cutBehind] at cut
    split at cut
    · next here =>
      obtain ⟨rfl, rfl⟩ := List.cons.inj cut
      exact ⟨by simp, fun _ => by simp [here], by rw [flatten_cutBehind]⟩
    · next other =>
      cases rest : cutBehind mark as with
      | nil =>
        rw [rest] at cut
        obtain ⟨rfl, rfl⟩ := List.cons.inj cut
        exact ⟨by simp, fun h => (h rfl).elim, rfl⟩
      | cons line' lines' =>
        rw [rest, growFirst_cons] at cut
        obtain ⟨rfl, rfl⟩ := List.cons.inj cut
        obtain ⟨single, ends, later⟩ := ih rest
        refine ⟨?_, fun more => ?_, later⟩
        · cases line' with
          | nil => simp
          | cons b bs =>
            rw [List.singleton_append, List.dropLast_cons_cons, List.mem_cons, not_or]
            exact ⟨fun same => other same.symm, single⟩
        · have := ends more
          cases line' with
          | nil => simp at this
          | cons b bs =>
            rw [List.singleton_append, List.dropLast_cons_cons, List.cons_append, ← this]

/-- A line of a text has no mark but at its end. -/
theorem notMem_dropLast_of_mem_cutBehind {as line : List α} (h : line ∈ cutBehind mark as) :
    mark ∉ line.dropLast := by
  generalize cut : cutBehind mark as = lines at h
  induction lines generalizing as with
  | nil => exact (List.not_mem_nil h).elim
  | cons first rest ih =>
    obtain ⟨single, -, later⟩ := of_cutBehind_eq_cons cut
    rcases List.mem_cons.1 h with rfl | h
    · exact single
    · exact ih later h

/-- Lines of a text in front of another are cut off whatever follows them. -/
theorem cutBehind_append_of_cut {as line : List α} {before after : List (List α)}
    (cut : cutBehind mark as = before ++ line :: after) (rest : List α) :
    cutBehind mark (before.flatten ++ rest) = before ++ cutBehind mark rest := by
  induction before generalizing as with
  | nil => rfl
  | cons first before ih =>
    obtain ⟨single, ends, later⟩ := of_cutBehind_eq_cons cut
    have body := ends (List.append_ne_nil_of_right_ne_nil _ (List.cons_ne_nil _ _))
    rw [List.flatten_cons, body, List.append_assoc, List.append_assoc, List.singleton_append,
      cutBehind_append single, ih later, List.cons_append]

/-- A text without one of its lines is cut into the others. -/
theorem cutBehind_flatten_erase {as line : List α} {before after : List (List α)}
    (cut : cutBehind mark as = before ++ line :: after) :
    cutBehind mark (before ++ after).flatten = before ++ after := by
  have behind : cutBehind mark (line :: after).flatten = line :: after := by
    have whole : before ++ cutBehind mark (line :: after).flatten = before ++ line :: after := by
      rw [← cutBehind_append_of_cut cut, ← List.flatten_append, ← cut, flatten_cutBehind]
    exact List.append_cancel_left whole
  rw [List.flatten_append, cutBehind_append_of_cut cut, (of_cutBehind_eq_cons behind).2.2]

/-! ### Lines of bytes -/

/-- Lines are cut onto lines that are complete and a line that is being read. -/
theorem splitLinesOnto_eq (done : List (List UInt8)) (current input : List UInt8) :
    splitLinesOnto done current input =
      done.reverse ++ growFirst current.reverse (cutBehind 0x0A input) := by
  induction input generalizing done current with
  | nil => cases current <;> simp [splitLinesOnto, cutBehind, growFirst]
  | cons b bs ih =>
    rw [splitLinesOnto, cutBehind]
    split
    · next hb => simp [ih, hb]
    · rw [ih, List.reverse_cons, growFirst_append]

theorem splitLines_eq (input : List UInt8) : splitLines input = cutBehind 0x0A input := by
  simp [splitLines, splitLinesOnto_eq]

theorem growFirst_encodeChar (c : Char) (lines : List (List Char)) :
    growFirst (String.utf8EncodeChar c) (lines.map Utf8.encode) =
      (growFirst [c] lines).map Utf8.encode := by
  have hne : String.utf8EncodeChar c ≠ [] := String.utf8EncodeChar_ne_nil
  cases lines with
  | nil => simp [growFirst, hne]
  | cons line lines => simp

/-- The lines of an encoded text are the encoded lines of the text. -/
theorem splitLines_encode (text : List Char) :
    splitLines (Utf8.encode text) = (cutBehind '\n' text).map Utf8.encode := by
  rw [splitLines_eq]
  induction text with
  | nil => rfl
  | cons c cs ih =>
    rw [Utf8.encode_cons, cutBehind]
    split
    · next hc =>
      subst hc
      have hbytes : String.utf8EncodeChar '\n' = [0x0A] := rfl
      rw [hbytes, List.singleton_append, cutBehind, if_pos rfl, ih]
      rfl
    · next hc =>
      rw [cutBehind_append_of_notMem (Utf8.lineFeed_notMem_encodeChar hc), ih,
        growFirst_encodeChar]

end InspectionHost.Session
