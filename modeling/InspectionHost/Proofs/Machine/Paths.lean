import InspectionHost.Machine.ProgramLookup
import Mathlib.Tactic.SplitIfs

/-!
# Paths and the places that they lead to

The names of a path between its slashes are the names before a slash and those behind it. A slash
behind a slash does not count: the empty name between them leads nowhere else. Where no link is met,
a path leads on name by name.

## Main definitions

* `FileTree.step` : the place that one name leads to where no link has the name.

## Main results

* `pathNames_append` : the names before and behind a slash.
* `FileTree.walk_of_steps`, `FileTree.locate_of_steps` : without links a walk goes name by name.
* `FileTree.walk_append_nil_cons` : an empty name does not count.
* `FileTree.locate_of_double_slash` : a second slash does not count.
-/

namespace InspectionHost

/-! ### Names -/

/-- The letters of the names of a path, the first name with one letter more. -/
def addLetter (c : Char) (names : List (List Char)) : List (List Char) :=
  if c = '/' then [] :: names
  else match names with
    | name :: rest => (c :: name) :: rest
    | [] => [[c]]

/-- The letters of the names of a path. -/
def nameLetters (cs : List Char) : List (List Char) :=
  cs.foldr addLetter [[]]

theorem pathNames_eq (cs : List Char) : pathNames cs = (nameLetters cs).map String.ofList :=
  rfl

theorem addLetter_cons {c : Char} (letter : c ≠ '/') (name : List Char) (rest : List (List Char)) :
    addLetter c (name :: rest) = (c :: name) :: rest :=
  if_neg letter

theorem pathNames_of_notMem {cs : List Char} (single : '/' ∉ cs) :
    pathNames cs = [String.ofList cs] := by
  have letters : nameLetters cs = [cs] := by
    induction cs with
    | nil => rfl
    | cons c cs ih =>
      rw [List.mem_cons, not_or] at single
      obtain ⟨letter, rest⟩ := single
      calc nameLetters (c :: cs) = addLetter c (nameLetters cs) := rfl
        _ = addLetter c [cs] := by rw [ih rest]
        _ = [c :: cs] := addLetter_cons (Ne.symm letter) cs []
  rw [pathNames_eq, letters]
  rfl

/-- The names of a path are those before a slash and those behind it. -/
theorem pathNames_append (front back : List Char) :
    pathNames (front ++ '/' :: back) = pathNames front ++ pathNames back := by
  have grow (names : List (List Char)) : ∃ name rest, nameLetters front = name :: rest ∧
      front.foldr addLetter ([] :: names) = name :: rest ++ names := by
    induction front with
    | nil => exact ⟨[], [], rfl, rfl⟩
    | cons c front ih =>
      obtain ⟨name, rest, hfront, hnames⟩ := ih
      have hcons : nameLetters (c :: front) = addLetter c (name :: rest) :=
        congrArg (addLetter c) hfront
      rw [hcons, List.foldr_cons, hnames]
      by_cases slash : c = '/'
      · subst slash
        exact ⟨[], name :: rest, rfl, rfl⟩
      · exact ⟨c :: name, rest, addLetter_cons slash name rest, addLetter_cons slash name _⟩
  obtain ⟨name, rest, hfront, hnames⟩ := grow (nameLetters back)
  have letters : nameLetters (front ++ '/' :: back) = nameLetters front ++ nameLetters back :=
    calc nameLetters (front ++ '/' :: back)
        = front.foldr addLetter ([] :: nameLetters back) := List.foldr_append
      _ = nameLetters front ++ nameLetters back := by rw [hnames, hfront]
  rw [pathNames_eq, letters, List.map_append, ← pathNames_eq, ← pathNames_eq]

namespace FileTree

variable {t : FileTree} {directory place : Place} {path : String}

theorem exists_place_of_reaches (reached : t.reaches directory path = true) :
    ∃ place node, t.locate directory path = .ok place ∧ t.get? place = some node := by
  unfold reaches find? at reached
  split at reached
  · next place located =>
    obtain ⟨node, there⟩ := Option.isSome_iff_exists.1 reached
    exact ⟨place, node, located, there⟩
  · contradiction

theorem reaches_of_locate {node : FileNode} (located : t.locate directory path = .ok place)
    (there : t.get? place = some node) : t.reaches directory path = true := by
  simp [reaches, find?, located, there]

theorem locate_of_absolute (absolute : isAbsolutePath path.toList = true)
    (directory directory' : Place) : t.locate directory path = t.locate directory' path := by
  simp only [locate, absolute, if_true]

/-- The place that one name leads to where no link has the name. -/
def step (t : FileTree) (place : Place) (name : String) : Except IoError Place :=
  if !(t.get? place).any FileNode.isDirectory then .error .notADirectory
  else if name = "" ∨ name = "." then .ok place
  else if name = ".." then .ok place.dropLast
  else if nameLimit < name.utf8ByteSize then .error .nameTooLong
  else match t.get? (place ++ [name]) with
    | none => .error .noEntry
    | some (.link _) => .error .tooManyLinks
    | some _ => .ok (place ++ [name])

/-- A walk that meets no link goes name by name. -/
theorem walk_of_steps {links : Nat} {place : Place} {names : List String}
    {result : Except IoError Place} (steps : names.foldlM t.step place = result)
    (linkless : result ≠ .error .tooManyLinks) : t.walk links place names = result := by
  fun_induction walk t links place names with
  | case1 => exact steps
  | case2 links place name rest dir =>
    simp only [List.foldlM_cons, step, if_pos dir] at steps
    exact steps
  | case3 links place name rest dir stay ih =>
    simp only [List.foldlM_cons, step, if_neg dir, if_pos stay] at steps
    exact ih steps
  | case4 links place rest dir move ih =>
    simp only [List.foldlM_cons, step, if_neg dir, if_neg move, if_true] at steps
    exact ih steps
  | case5 links place name rest dir move up long =>
    simp only [List.foldlM_cons, step, if_neg dir, if_neg move, if_neg up, if_pos long] at steps
    exact steps
  | case6 links place name rest dir move up short missing =>
    simp only [List.foldlM_cons, step, if_neg dir, if_neg move, if_neg up, if_neg short,
      missing] at steps
    exact steps
  | case7 place name rest dir move up short target link
  | case8 place name rest dir move up short target link =>
    simp only [List.foldlM_cons, step, if_neg dir, if_neg move, if_neg up, if_neg short,
      link] at steps
    exact (linkless steps.symm).elim
  | case9 links place name rest dir move up short node plain there ih =>
    simp only [List.foldlM_cons, step, if_neg dir, if_neg move, if_neg up, if_neg short,
      there] at steps
    exact ih steps

theorem locate_of_steps {result : Except IoError Place}
    (usable : path ≠ "" ∧ '\x00' ∉ path.toList ∧ path.utf8ByteSize < pathLimit)
    (steps : (pathNames path.toList).foldlM t.step
      (if isAbsolutePath path.toList then [] else directory) = result)
    (linkless : result ≠ .error .tooManyLinks) : t.locate directory path = result := by
  obtain ⟨nonempty, plain, short⟩ := usable
  rw [locate, if_neg (by simpa using nonempty), if_neg plain, if_neg (Nat.not_le.2 short)]
  exact walk_of_steps steps linkless

theorem reaches_eq_false_of_steps
    (usable : path ≠ "" ∧ '\x00' ∉ path.toList ∧ path.utf8ByteSize < pathLimit)
    (steps : (pathNames path.toList).foldlM t.step
      (if isAbsolutePath path.toList then [] else directory) = .error .noEntry) :
    t.reaches directory path = false := by
  have located : t.locate directory path = .error .noEntry :=
    locate_of_steps usable steps (mt Except.error.inj (by decide))
  simp [reaches, find?, located]

/-- An empty name between others leads nowhere else. -/
theorem walk_append_nil_cons {links : Nat} {place target : Place} {names : List String}
    (walked : t.walk links place names = .ok target) (front back : List String)
    (split : names = front ++ "" :: back) : t.walk links place (front ++ back) = .ok target := by
  fun_induction walk t links place names generalizing front with
  | case1 => simp at split
  | case2 | case5 | case6 | case7 => contradiction
  | case3 links place name rest dir stay ih =>
    rcases List.cons_eq_append_iff.1 split with ⟨rfl, hback⟩ | ⟨front', rfl, hrest⟩
    · obtain ⟨-, rfl⟩ := List.cons.inj hback
      exact walked
    · rw [List.cons_append, walk, if_neg dir, if_pos stay]
      exact ih walked front' hrest
  | case4 links place rest dir move ih =>
    rcases List.cons_eq_append_iff.1 split with ⟨rfl, hback⟩ | ⟨front', rfl, hrest⟩
    · simp at hback
    · rw [List.cons_append, walk, if_neg dir, if_neg move, if_pos rfl]
      exact ih walked front' hrest
  | case8 place name rest dir move up short target' link links ih =>
    rcases List.cons_eq_append_iff.1 split with ⟨rfl, hback⟩ | ⟨front', rfl, hrest⟩
    · exact (move (.inl (List.cons.inj hback).1.symm)).elim
    · rw [List.cons_append, walk, if_neg dir, if_neg move, if_neg up, if_neg short]
      simp only [link]
      rw [← List.append_assoc]
      exact ih walked (pathNames target'.toList ++ front') (by rw [hrest, List.append_assoc])
  | case9 links place name rest dir move up short node plain there ih =>
    rcases List.cons_eq_append_iff.1 split with ⟨rfl, hback⟩ | ⟨front', rfl, hrest⟩
    · exact (move (.inl (List.cons.inj hback).1.symm)).elim
    · rw [List.cons_append, walk, if_neg dir, if_neg move, if_neg up, if_neg short]
      simp only [there]
      exact ih walked front' hrest

/-- A second slash behind a slash leads nowhere else. -/
theorem locate_of_double_slash {front back : String}
    (located : t.locate directory (front ++ "/" ++ "/" ++ back) = .ok place) :
    t.locate directory (front ++ "/" ++ back) = .ok place := by
  have longer : (front ++ "/" ++ "/" ++ back).toList =
      front.toList ++ '/' :: ([] ++ '/' :: back.toList) := by simp
  have shorter : (front ++ "/" ++ back).toList = front.toList ++ '/' :: back.toList := by simp
  have absolute : isAbsolutePath (front ++ "/" ++ back).toList =
      isAbsolutePath (front ++ "/" ++ "/" ++ back).toList := by
    rw [longer, shorter, isAbsolutePath, isAbsolutePath]
    cases front.toList <;> rfl
  have nonempty : (front ++ "/" ++ back).isEmpty = false := by
    rw [String.isEmpty_eq_false_iff]
    intro empty
    simp [empty] at shorter
  have size : (front ++ "/" ++ back).utf8ByteSize ≤ (front ++ "/" ++ "/" ++ back).utf8ByteSize := by
    simp only [String.utf8ByteSize_append]
    omega
  unfold locate at located ⊢
  rw [absolute]
  generalize (if isAbsolutePath (front ++ "/" ++ "/" ++ back).toList then [] else directory) =
    start at located ⊢
  split_ifs at located with hempty hnul hlimit
  have nul : '\x00' ∉ (front ++ "/" ++ back).toList := by
    rw [longer] at hnul
    rw [shorter]
    simp_all
  have limit : ¬ pathLimit ≤ (front ++ "/" ++ back).utf8ByteSize := by omega
  rw [if_neg (by simp [nonempty]), if_neg nul, if_neg limit, shorter, pathNames_append]
  rw [longer, pathNames_append, pathNames_append] at located
  exact walk_append_nil_cons located _ _ rfl

end FileTree

end InspectionHost
