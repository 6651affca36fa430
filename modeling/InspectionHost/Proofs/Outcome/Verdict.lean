import InspectionHost.Proofs.Text.Trim
import InspectionHost.Verdict

/-!
# What a verdict says of an answer

The verdict of an output is a verdict on its trimmed text: it goes by the words that the text begins
with, and carries what stands behind them. A client answers in lines, the first of which begins with
the words. The lines behind it are in the text after it, with a space in front of each, and blank
lines in front of it do not matter.

## Main definitions

* `addedBy` : what lines behind another one add to its text.
* `Verdict.SaysOk` : a text whose verdict is that the client accepts.
* `Verdict.text?` : the text that a verdict carries.

## Main results

* `toList_joinLines_cons` : the text of a line with others behind it.
* `trim_joinLines_append` : blank lines in front do not matter.
* `Verdict.ofTrimmed_cases` : a verdict by the words that the text begins with.
* `Outcome.verdict_of_answer` : answers are classified and their texts recovered.
-/

namespace InspectionHost

open InspectionHost.Text

variable {line : String} {front rest : List String}

/-! ### The text of lines -/

/-- What lines add to the text of a line in front of them. -/
def addedBy (rest : List String) : List Char :=
  rest.flatMap fun line => ' ' :: line.toList

@[simp] theorem addedBy_nil : addedBy [] = [] :=
  rfl

@[simp] theorem addedBy_cons (line : String) (rest : List String) :
    addedBy (line :: rest) = ' ' :: (line.toList ++ addedBy rest) := by
  simp [addedBy]

theorem isBlank_of_head?_addedBy (rest : List String) :
    ∀ c ∈ (addedBy rest).head?, isBlank c = true := by
  cases rest with
  | nil => simp
  | cons line rest =>
    rw [addedBy_cons, List.head?_cons]
    rintro c ⟨⟩
    decide

theorem allBlank_addedBy (rest : List String) :
    allBlank (addedBy rest) = rest.all fun line => allBlank line.toList := by
  induction rest with
  | nil => rfl
  | cons line rest ih =>
    have hspace : isBlank ' ' = true := by decide
    rw [addedBy_cons, List.all_cons, ← ih, allBlank, allBlank, allBlank, List.all_cons, hspace,
      Bool.true_and, List.all_append]

/-- The text of a line with others behind it. -/
theorem toList_joinLines_cons (line : String) (rest : List String) :
    (joinLines (line :: rest)).toList = line.toList ++ addedBy rest := by
  rw [joinLines]
  induction rest generalizing line with
  | nil => simp
  | cons next rest ih =>
    have hspace : " ".toList = [' '] := rfl
    rw [List.foldl_cons, ih, String.toList_append, String.toList_append, hspace, addedBy_cons,
      List.append_assoc, List.append_assoc, List.singleton_append]

/-- Blank lines in front do not matter to the trimmed text. -/
theorem trim_joinLines_append (blank : ∀ line ∈ front, allBlank line.toList = true)
    (line : String) (rest : List String) : trim (joinLines (front ++ line :: rest)).toList =
      trim (joinLines (line :: rest)).toList := by
  induction front with
  | nil => rfl
  | cons first front ih =>
    obtain ⟨hfirst, hfront⟩ := List.forall_mem_cons.1 blank
    obtain ⟨next, more, hnext⟩ : ∃ next more, front ++ line :: rest = next :: more :=
      List.exists_cons_of_ne_nil (by simp)
    have hjoined : (joinLines (first :: next :: more)).toList =
        (first.toList ++ [' ']) ++ (joinLines (next :: more)).toList := by
      rw [toList_joinLines_cons, addedBy_cons, toList_joinLines_cons]
      simp
    have hblank : allBlank (first.toList ++ [' ']) = true := by
      have hspace : allBlank [' '] = true := by decide
      rw [allBlank, List.all_append, Bool.and_eq_true]
      exact ⟨hfirst, hspace⟩
    rw [List.cons_append, hnext, hjoined, trim_append_of_allBlank_left hblank, ← hnext,
      ih hfront]

namespace Verdict

variable {cs words : List Char}

/-! ### Words that a text begins with -/

theorem behind?_eq_some_iff {tail : List Char} :
    behind? words cs = some tail ↔ cs = words ++ tail := by
  fun_induction behind? words cs with
  | case1 cs => simp
  | case2 w ws => simp
  | case3 w ws cs ih => simpa using ih
  | case4 w ws c cs hne => simp [Ne.symm hne]

theorem isSome_behind?_iff : (behind? words cs).isSome = true ↔ words <+: cs := by
  rw [Option.isSome_iff_exists]
  exact exists_congr fun _ => behind?_eq_some_iff.trans eq_comm

theorem behind?_append (words tail : List Char) : behind? words (words ++ tail) = some tail :=
  behind?_eq_some_iff.2 rfl

theorem behind?_eq_none_iff : behind? words cs = none ↔ ¬ words <+: cs := by
  rw [← isSome_behind?_iff, Option.not_isSome_iff_eq_none]

theorem parseErrorWords_eq :
    parseErrorWords = ['P', 'a', 'r', 's', 'e', ' ', 'e', 'r', 'r', 'o', 'r', ':'] :=
  rfl

theorem serviceErrorWords_eq : serviceErrorWords =
    ['S', 'e', 'r', 'v', 'i', 'c', 'e', ' ', 'e', 'r', 'r', 'o', 'r', ':'] :=
  rfl

theorem isTrimmed_okWord : IsTrimmed okWord :=
  ⟨fun _ hc => Option.some.inj hc ▸ rfl, fun _ hc => Option.some.inj hc ▸ rfl⟩

theorem isTrimmed_parseErrorWords : IsTrimmed parseErrorWords :=
  ⟨fun _ hc => Option.some.inj hc ▸ rfl, fun _ hc => Option.some.inj hc ▸ rfl⟩

theorem isTrimmed_serviceErrorWords : IsTrimmed serviceErrorWords :=
  ⟨fun _ hc => Option.some.inj hc ▸ rfl, fun _ hc => Option.some.inj hc ▸ rfl⟩

theorem ofTrimmed_parseError (tail : List Char) :
    ofTrimmed (parseErrorWords ++ tail) = parseError (String.ofList (trim tail)) := by
  rw [ofTrimmed, behind?_append, if_neg, if_neg]
  · simp [parseErrorWords_eq, okWord, behind?]
  · simp [parseErrorWords_eq]

theorem ofTrimmed_serviceError (tail : List Char) :
    ofTrimmed (serviceErrorWords ++ tail) = serviceError (String.ofList (trim tail)) := by
  rw [ofTrimmed, behind?_append, if_neg, if_neg]
  · simp [serviceErrorWords_eq, parseErrorWords_eq, behind?]
  · simp [serviceErrorWords_eq, okWord, behind?]
  · simp [serviceErrorWords_eq]

theorem ofTrimmed_ok (h : cs = okWord ∨ okWord ++ [' '] <+: cs) : ofTrimmed cs = ok := by
  have hne : ¬ cs.isEmpty = true := by
    rcases h with rfl | ⟨tail, rfl⟩ <;> simp [okWord]
  rw [ofTrimmed, if_neg hne, if_pos (h.imp id isSome_behind?_iff.2)]

theorem ofTrimmed_other (nonempty : cs ≠ []) (notOk : ¬ (cs = okWord ∨ okWord ++ [' '] <+: cs))
    (notParse : ¬ parseErrorWords <+: cs) (notService : ¬ serviceErrorWords <+: cs) :
    ofTrimmed cs = other (String.ofList cs) := by
  rw [ofTrimmed, if_neg (by simpa using nonempty),
    if_neg (mt (Or.imp id isSome_behind?_iff.1) notOk), behind?_eq_none_iff.2 notParse,
    behind?_eq_none_iff.2 notService]

/-- A verdict goes by the words that the text begins with. -/
theorem ofTrimmed_cases (cs : List Char) :
    (cs = [] ∧ ofTrimmed cs = empty) ∨
      ((cs = okWord ∨ okWord ++ [' '] <+: cs) ∧ ofTrimmed cs = ok) ∨
      (∃ tail, cs = parseErrorWords ++ tail ∧
        ofTrimmed cs = parseError (String.ofList (trim tail))) ∨
      (∃ tail, cs = serviceErrorWords ++ tail ∧
        ofTrimmed cs = serviceError (String.ofList (trim tail))) ∨
      (cs ≠ [] ∧ ofTrimmed cs = other (String.ofList cs)) := by
  by_cases nonempty : cs = []
  · exact .inl ⟨nonempty, by rw [nonempty]; rfl⟩
  by_cases isOk : cs = okWord ∨ okWord ++ [' '] <+: cs
  · exact .inr (.inl ⟨isOk, ofTrimmed_ok isOk⟩)
  by_cases isParse : parseErrorWords <+: cs
  · obtain ⟨tail, rfl⟩ := isParse
    exact .inr (.inr (.inl ⟨tail, rfl, ofTrimmed_parseError tail⟩))
  by_cases isService : serviceErrorWords <+: cs
  · obtain ⟨tail, rfl⟩ := isService
    exact .inr (.inr (.inr (.inl ⟨tail, rfl, ofTrimmed_serviceError tail⟩)))
  exact .inr (.inr (.inr (.inr ⟨nonempty, ofTrimmed_other nonempty isOk isParse isService⟩)))

theorem ofTrimmed_eq_empty_iff : ofTrimmed cs = empty ↔ cs = [] := by
  refine ⟨fun h => ?_, fun h => by rw [h]; rfl⟩
  rcases ofTrimmed_cases cs with ⟨none, -⟩ | ⟨-, hv⟩ | ⟨_, -, hv⟩ | ⟨_, -, hv⟩ | ⟨-, hv⟩
  · exact none
  all_goals cases hv.symm.trans h

theorem ofTrimmed_ne_unavailable (cs : List Char) : ofTrimmed cs ≠ unavailable := by
  intro h
  rcases ofTrimmed_cases cs with ⟨-, hv⟩ | ⟨-, hv⟩ | ⟨_, -, hv⟩ | ⟨_, -, hv⟩ | ⟨-, hv⟩ <;>
    cases hv.symm.trans h

theorem eq_of_ofTrimmed_eq_other {text : String} (h : ofTrimmed cs = other text) :
    cs ≠ [] ∧ text = String.ofList cs := by
  rcases ofTrimmed_cases cs with ⟨-, hv⟩ | ⟨-, hv⟩ | ⟨_, -, hv⟩ | ⟨_, -, hv⟩ | ⟨nonempty, hv⟩
  case inr.inr.inr.inr => exact ⟨nonempty, other.inj (h.symm.trans hv)⟩
  all_goals cases hv.symm.trans h

/-- A text begins with the word of acceptance, and behind it are only blanks, or a space first. -/
def SaysOk (cs : List Char) : Prop :=
  ∃ tail, cs = okWord ++ tail ∧ (allBlank tail = true ∨ tail.head? = some ' ')

/-- The word of acceptance is recognised in front of blanks, and in front of a space. -/
theorem saysOk_iff :
    (trimEnd cs = okWord ∨ okWord ++ [' '] <+: trimEnd cs) ↔ SaysOk cs := by
  constructor
  · obtain ⟨blanks, hblanks, hcs⟩ := exists_trimEnd_append cs
    rintro (hword | ⟨tail, htail⟩)
    · exact ⟨blanks, by rw [← hword, ← hcs], .inl hblanks⟩
    · exact ⟨' ' :: tail ++ blanks, by rw [hcs, ← htail]; simp, .inr rfl⟩
  · rintro ⟨tail, rfl, hblank | hspace⟩
    · have hnone : trimEnd tail = [] := dropEndWhile_eq_nil_iff.2 hblank
      exact .inl (by rw [trimEnd_append isTrimmed_okWord.closed, hnone, List.append_nil])
    · rw [trimEnd_append isTrimmed_okWord.closed]
      rcases head?_trimEnd tail with hnone | hsame
      · exact .inl (by rw [hnone, List.append_nil])
      · obtain ⟨more, hmore⟩ := List.head?_eq_some_iff.1 (hsame.trans hspace)
        exact .inr ⟨more, by rw [hmore, List.append_assoc, List.singleton_append]⟩

/-- The text that a verdict carries. -/
def text? : Verdict → Option String
  | parseError text | serviceError text | other text => some text
  | ok | empty | unavailable => none

/-- Whatever a verdict on a trimmed text carries is trimmed. -/
theorem isTrimmed_of_text? (trimmed : IsTrimmed cs) {text : String}
    (h : (ofTrimmed cs).text? = some text) : IsTrimmed text.toList := by
  rcases ofTrimmed_cases cs with ⟨-, hv⟩ | ⟨-, hv⟩ | ⟨tail, -, hv⟩ | ⟨tail, -, hv⟩ | ⟨-, hv⟩
  · rw [hv] at h
    cases h
  · rw [hv] at h
    cases h
  · rw [hv] at h
    obtain rfl := Option.some.inj h
    simpa using isTrimmed_trim tail
  · rw [hv] at h
    obtain rfl := Option.some.inj h
    simpa using isTrimmed_trim tail
  · rw [hv] at h
    obtain rfl := Option.some.inj h
    simpa using trimmed

theorem trim_append_of_words (trimmed : IsTrimmed words) (nonempty : words ≠ []) (cs : List Char) :
    trim (words ++ cs) = words ++ trimEnd cs := by
  have hhead : ∀ c ∈ (words ++ cs).head?, isBlank c = false := by
    rw [List.head?_append_of_ne_nil _ nonempty]
    exact trimmed.visible
  rw [trim_eq_trimEnd hhead, trimEnd_append trimmed.closed]

end Verdict

namespace Outcome

open Verdict

theorem verdict_ofLines_append (blank : ∀ line ∈ front, allBlank line.toList = true)
    (line : String) (rest : List String) : (ofLines (front ++ line :: rest)).verdict =
      ofTrimmed (trim (line.toList ++ addedBy rest)) := by
  rw [ofLines, verdict, trim_joinLines_append blank, toList_joinLines_cons]

/-- **Answers and their verdicts.** Let a client write any number of blank lines, a line that begins
with the words of a parse error or of a service error, or the word of a client that accepts, and any
further lines. Then the verdict is the one of the words, and it carries the trimmed text of what
stands behind them in the line and in the further lines.

For every outcome, whatever it is:

* The verdict is that it is unavailable exactly if it is a failure, and that it is empty exactly if
  it is an output of blanks only.
* Only an output that is not all blank is of another kind, and this verdict carries the whole
  trimmed text.
* A text that a verdict carries neither begins nor ends with a blank. -/
theorem verdict_of_answer (front : List String) (hint : String) (rest : List String)
    (blank : ∀ line ∈ front, allBlank line.toList = true) (o : Outcome) :
    (ofLines (front ++ ("Parse error:" ++ hint) :: rest)).verdict =
        .parseError (String.ofList (trim (joinLines (hint :: rest)).toList)) ∧
      (ofLines (front ++ ("Service error:" ++ hint) :: rest)).verdict =
        .serviceError (String.ofList (trim (joinLines (hint :: rest)).toList)) ∧
      (ofLines (front ++ "OK" :: rest)).verdict = .ok ∧
      (o.verdict = .unavailable ↔ ∃ f, o = .failure f) ∧
      (o.verdict = .empty ↔ ∃ text, o = .output text ∧ allBlank text.toList = true) ∧
      (∀ text, o.verdict = .other text → text ≠ "" ∧
        ∃ whole, o = .output whole ∧ text = String.ofList (trim whole.toList)) ∧
      (∀ text, o.verdict.text? = some text → IsTrimmed text.toList) := by
  have hparse : "Parse error:".toList = parseErrorWords := rfl
  have hservice : "Service error:".toList = serviceErrorWords := rfl
  refine ⟨?_, ?_, ?_, ?_, ?_, ?_, ?_⟩
  · rw [verdict_ofLines_append blank, String.toList_append, hparse, List.append_assoc,
      trim_append_of_words isTrimmed_parseErrorWords (by decide), ofTrimmed_parseError,
      trim_trimEnd, toList_joinLines_cons]
  · rw [verdict_ofLines_append blank, String.toList_append, hservice, List.append_assoc,
      trim_append_of_words isTrimmed_serviceErrorWords (by decide), ofTrimmed_serviceError,
      trim_trimEnd,
      toList_joinLines_cons]
  · have hok : "OK".toList = okWord := rfl
    rw [verdict_ofLines_append blank, hok, trim_append_of_words isTrimmed_okWord (by decide),
      ← trimEnd_append isTrimmed_okWord.closed]
    refine ofTrimmed_ok (saysOk_iff.2 ⟨addedBy rest, rfl, ?_⟩)
    cases rest with
    | nil => exact .inl rfl
    | cons line rest => exact .inr (by rw [addedBy_cons, List.head?_cons])
  · cases o with
    | output text => simp [verdict, ofTrimmed_ne_unavailable]
    | failure f => simp [verdict]
  · cases o with
    | output text => simp [verdict, ofTrimmed_eq_empty_iff, trim_eq_nil_iff]
    | failure f => simp [verdict]
  · intro text hother
    cases o with
    | output whole =>
      obtain ⟨nonempty, rfl⟩ := eq_of_ofTrimmed_eq_other hother
      exact ⟨by simpa using nonempty, whole, rfl, rfl⟩
    | failure f => cases hother
  · intro text hcarried
    cases o with
    | output whole => exact isTrimmed_of_text? (isTrimmed_trim whole.toList) hcarried
    | failure f => cases hcarried

/-- Two blank lines stand in front of a parse error, and its hint goes on behind an empty line. -/
theorem verdict_of_answer_behind_blanks :
    (∀ line ∈ ["", " \t"], allBlank line.toList = true) ∧
      (ofLines (["", " \t"] ++ ("Parse error:" ++ " a ") :: ["", "b "])).verdict =
        .parseError "a   b" := by
  have blank : ∀ line ∈ ["", " \t"], allBlank line.toList = true := by decide
  obtain ⟨hint, -⟩ := verdict_of_answer ["", " \t"] " a " ["", "b "] blank (.failure .cancelled)
  refine ⟨blank, hint.trans ?_⟩
  decide

end Outcome

end InspectionHost
