import InspectionHost.Proofs.Outcome.Verdict

/-!
# Verdicts and summary lines

The summary of a client is its first line that is not blank. The kind of a verdict is that of the
summary alone, with three exceptions, which come from the place where the next line is joined to the
summary. A blank behind the word of acceptance that is no space, such as a tab or a carriage return,
is no longer at the end of the text when a visible line follows, and then the word is not
recognised. And the words of an error hold a space, so a summary that is the first of them, with the
second at the front of the next line, is taken for all of them.

## Main definitions

* `VerdictKind`, `Verdict.kind` : a verdict without its text.
* `Misread` : how lines behind a summary change the kind of its verdict.

## Main results

* `Verdict.kind_ofTrimmed` : the kind of a verdict by the words at the front of the text.
* `Verdict.prefix_addedBy_iff` : when the words of an error reach into the next line.
* `Verdict.saysOk_addedBy_iff` : when further lines leave the word of acceptance recognised.
* `Outcome.kind_verdict_ofLines` : the kind of a verdict is that of the summary, unless the summary
  is misread.
-/

namespace InspectionHost

open InspectionHost.Text

/-- A verdict without its text. -/
inductive VerdictKind where
  | ok
  | parseError
  | serviceError
  | other
  | empty
  | unavailable
  deriving DecidableEq, Repr

variable {line : List Char} {rest : List String}

namespace Verdict

/-- The kind of a verdict. -/
def kind : Verdict → VerdictKind
  | ok => .ok
  | parseError _ => .parseError
  | serviceError _ => .serviceError
  | other _ => .other
  | empty => .empty
  | unavailable => .unavailable

/-! ### The front of a text -/

open scoped Classical in
/-- The kind of a verdict goes by the words at the front of a text that begins visibly. -/
theorem kind_ofTrimmed (visible : ∃ c ∈ line.head?, isBlank c = false) :
    (ofTrimmed (trimEnd line)).kind =
      if SaysOk line then .ok
      else if parseErrorWords <+: line then .parseError
      else if serviceErrorWords <+: line then .serviceError
      else .other := by
  have hparse : parseErrorWords <+: trimEnd line ↔ parseErrorWords <+: line :=
    prefix_trimEnd_iff isTrimmed_parseErrorWords.closed
  have hservice : serviceErrorWords <+: trimEnd line ↔ serviceErrorWords <+: line :=
    prefix_trimEnd_iff isTrimmed_serviceErrorWords.closed
  split_ifs with isOk isParse isService
  · rw [ofTrimmed_ok (saysOk_iff.2 isOk)]
    rfl
  · obtain ⟨tail, htail⟩ := hparse.2 isParse
    rw [← htail, ofTrimmed_parseError]
    rfl
  · obtain ⟨tail, htail⟩ := hservice.2 isService
    rw [← htail, ofTrimmed_serviceError]
    rfl
  · have nonempty : trimEnd line ≠ [] := by
      intro none
      obtain ⟨c, hc, hvisible⟩ := visible
      have hblank := List.all_eq_true.1 (dropEndWhile_eq_nil_iff.1 none) c
        (List.mem_of_mem_head? hc)
      exact absurd hblank (by simp [hvisible])
    rw [ofTrimmed_other nonempty (mt saysOk_iff.1 isOk) (mt hparse.1 isParse)
      (mt hservice.1 isService)]
    rfl

/-! ### Where the next line is joined -/

/-- Two words with a space between them begin a line with others behind it exactly if they begin
the line, or the line is the first of them and the second begins the next line. -/
theorem prefix_addedBy_iff (first second : List Char) (solid : first.any isBlank = false)
    (solid' : second.any isBlank = false) :
    first ++ ' ' :: second <+: line ++ addedBy rest ↔
      first ++ ' ' :: second <+: line ∨
        (line = first ∧ ∃ next ∈ rest.head?, second <+: next.toList) := by
  have hspace : isBlank ' ' = true := by decide
  have hfirst : ' ' ∉ first := fun there => List.any_eq_false.1 solid _ there hspace
  have hsecond : ' ' ∉ second := fun there => List.any_eq_false.1 solid' _ there hspace
  constructor
  · intro h
    rcases prefix_append_cases h with inside | ⟨c, more, hwords, hmore⟩
    · exact .inl inside
    · cases rest with
      | nil => simp at hmore
      | cons next rest =>
        rw [addedBy_cons, List.cons_prefix_cons] at hmore
        obtain ⟨rfl, hmore⟩ := hmore
        -- The words hold one space only, so they are cut where the line ends.
        obtain ⟨rfl, rfl⟩ : line = first ∧ more = second := by
          rcases List.append_eq_append_iff.1 hwords with
            ⟨_ | ⟨c, cs⟩, hline, hbehind⟩ | ⟨_ | ⟨c, cs⟩, hline, hbehind⟩
          · exact ⟨by simpa using hline, (List.cons.inj hbehind).2.symm⟩
          · exact (hsecond (by simp [(List.cons.inj hbehind).2])).elim
          · exact ⟨by simpa using hline.symm, (List.cons.inj hbehind).2⟩
          · exact (hfirst (by simp [hline, ← (List.cons.inj hbehind).1])).elim
        exact .inr ⟨rfl, next, rfl,
          (prefix_append_iff solid' (isBlank_of_head?_addedBy rest)).1 hmore⟩
  · rintro (inside | ⟨rfl, next, hnext, hsecond⟩)
    · exact inside.trans (List.prefix_append line _)
    · obtain ⟨rest, rfl⟩ := List.head?_eq_some_iff.1 hnext
      rw [addedBy_cons, List.prefix_append_right_inj, List.cons_prefix_cons]
      exact ⟨rfl, hsecond.trans (List.prefix_append next.toList _)⟩

theorem saysOk_append_iff {tail : List Char} :
    SaysOk (okWord ++ tail) ↔ allBlank tail = true ∨ tail.head? = some ' ' := by
  constructor
  · rintro ⟨tail', htail, h⟩
    rwa [List.append_cancel_left htail]
  · exact fun h => ⟨tail, rfl, h⟩

/-- Further lines leave the word of acceptance recognised, unless a blank behind it is no space and
one of them is visible. They do not complete it. -/
theorem saysOk_addedBy_iff : SaysOk (line ++ addedBy rest) ↔ SaysOk line ∧
    ∀ blank blanks, line = okWord ++ blank :: blanks → allBlank (blank :: blanks) = true →
      blank ≠ ' ' → ∀ next ∈ rest, allBlank next.toList = true := by
  have hrest : allBlank (addedBy rest) = true ↔ ∀ next ∈ rest, allBlank next.toList = true := by
    rw [allBlank_addedBy, List.all_eq_true]
  constructor
  · intro h
    obtain ⟨tail, htail, -⟩ := id h
    -- The word holds no blank, so it does not reach into the next line.
    obtain ⟨own, rfl⟩ : okWord <+: line :=
      (prefix_append_iff (by decide) (isBlank_of_head?_addedBy rest)).1 ⟨tail, htail.symm⟩
    rw [List.append_assoc, saysOk_append_iff] at h
    rw [saysOk_append_iff]
    refine ⟨?_, fun blank blanks hline hblank hne => ?_⟩
    · cases own with
      | nil => exact .inl rfl
      | cons c cs =>
        refine h.imp (fun all => ?_) (fun head => by simpa using head)
        rw [allBlank, List.all_append, Bool.and_eq_true] at all
        exact all.1
    · obtain rfl := List.append_cancel_left hline
      rcases h with all | head
      · rw [allBlank, List.all_append, Bool.and_eq_true] at all
        exact hrest.1 all.2
      · exact (hne (by simpa using head)).elim
  · rintro ⟨⟨own, rfl, hown⟩, hkept⟩
    rw [List.append_assoc, saysOk_append_iff]
    cases own with
    | nil =>
      cases rest with
      | nil => exact .inl rfl
      | cons next rest => exact .inr (by simp)
    | cons blank blanks =>
      by_cases hspace : blank = ' '
      · exact .inr (by simp [hspace])
      · have hblank : allBlank (blank :: blanks) = true :=
          hown.resolve_right (by simpa using hspace)
        refine .inl ?_
        rw [allBlank, List.all_append, Bool.and_eq_true]
        exact ⟨hblank, hrest.2 (hkept blank blanks rfl hblank hspace)⟩

end Verdict

open Verdict

/-! ### Summaries that are misread -/

/-- The first word of a parse error. -/
def parseWord : List Char := ['P', 'a', 'r', 's', 'e']

/-- The first word of a service error. -/
def serviceWord : List Char := ['S', 'e', 'r', 'v', 'i', 'c', 'e']

/-- The second word of both errors. -/
def errorWord : List Char := ['e', 'r', 'r', 'o', 'r', ':']

/-- How lines behind a summary change the kind of its verdict, from the kind for the summary alone
to that for all lines. -/
inductive Misread (line : List Char) (rest : List String) : VerdictKind → VerdictKind → Prop where
  /-- A blank behind the word of acceptance, which is no space, is not at the end any more. -/
  | accepted (blank : Char) (blanks : List Char) (text : line = okWord ++ blank :: blanks)
      (invisible : allBlank (blank :: blanks) = true) (noSpace : blank ≠ ' ') (next : String)
      (behind : next ∈ rest) (visible : allBlank next.toList = false) : Misread line rest .ok .other
  /-- The next line completes the words of a parse error. -/
  | parseError (text : line = parseWord) (next : String) (behind : rest.head? = some next)
      (completes : errorWord <+: next.toList) : Misread line rest .other .parseError
  /-- The next line completes the words of a service error. -/
  | serviceError (text : line = serviceWord) (next : String) (behind : rest.head? = some next)
      (completes : errorWord <+: next.toList) : Misread line rest .other .serviceError

/-- A summary is misread for a parse error exactly if the next line completes the words. -/
theorem prefix_addedBy_parseErrorWords : parseErrorWords <+: line ++ addedBy rest ↔
    parseErrorWords <+: line ∨ Misread line rest .other .parseError := by
  refine (prefix_addedBy_iff parseWord errorWord (by decide)
    (by decide)).trans (or_congr_right ⟨?_, ?_⟩)
  · rintro ⟨text, next, behind, completes⟩
    exact .parseError text next behind completes
  · rintro (_ | ⟨text, next, behind, completes⟩)
    exact ⟨text, next, behind, completes⟩

/-- A summary is misread for a service error exactly if the next line completes the words. -/
theorem prefix_addedBy_serviceErrorWords : serviceErrorWords <+: line ++ addedBy rest ↔
    serviceErrorWords <+: line ∨ Misread line rest .other .serviceError := by
  refine (prefix_addedBy_iff serviceWord errorWord (by decide)
    (by decide)).trans (or_congr_right ⟨?_, ?_⟩)
  · rintro ⟨text, next, behind, completes⟩
    exact .serviceError text next behind completes
  · rintro (_ | _ | ⟨text, next, behind, completes⟩)
    exact ⟨text, next, behind, completes⟩

/-- The word of acceptance stays recognised exactly if the summary is not misread. -/
theorem saysOk_addedBy : SaysOk (line ++ addedBy rest) ↔
    SaysOk line ∧ ¬ Misread line rest .ok .other := by
  refine saysOk_addedBy_iff.trans (and_congr_right fun _ => ⟨?_, ?_⟩)
  · rintro kept ⟨blank, blanks, text, invisible, noSpace, next, behind, visible⟩
    rw [kept blank blanks text invisible noSpace next behind] at visible
    cases visible
  · intro kept blank blanks text invisible noSpace next behind
    by_contra visible
    exact kept (.accepted blank blanks text invisible noSpace next behind (by simpa using visible))

/-- The kind of a verdict on a summary with other lines behind it. -/
theorem kind_addedBy (visible : ∃ c ∈ line.head?, isBlank c = false)
    (kept : ∀ alone whole, ¬ Misread line rest alone whole) :
    (ofTrimmed (trimEnd (line ++ addedBy rest))).kind = (ofTrimmed (trimEnd line)).kind := by
  classical
  have hvisible : ∃ c ∈ (line ++ addedBy rest).head?, isBlank c = false := by
    obtain ⟨c, hc, h⟩ := visible
    exact ⟨c, List.mem_head?_append_of_mem_head? hc, h⟩
  have hok : SaysOk (line ++ addedBy rest) ↔ SaysOk line :=
    saysOk_addedBy.trans (and_iff_left (kept _ _))
  have hparse : parseErrorWords <+: line ++ addedBy rest ↔ parseErrorWords <+: line :=
    prefix_addedBy_parseErrorWords.trans (or_iff_left (kept _ _))
  have hservice : serviceErrorWords <+: line ++ addedBy rest ↔ serviceErrorWords <+: line :=
    prefix_addedBy_serviceErrorWords.trans (or_iff_left (kept _ _))
  rw [kind_ofTrimmed visible, kind_ofTrimmed hvisible]
  exact if_congr hok rfl (if_congr hparse rfl (if_congr hservice rfl rfl))

/-- Of a summary that is misread, the kinds alone and with all lines are the ones given. -/
theorem Misread.kinds {alone whole : VerdictKind} (h : Misread line rest alone whole) :
    (ofTrimmed (trimEnd line)).kind = alone ∧
      (ofTrimmed (trimEnd (line ++ addedBy rest))).kind = whole := by
  have hmisread := h
  cases h with
  | accepted blank blanks text invisible _ _ _ _ =>
    have hok : SaysOk line := ⟨blank :: blanks, text, .inl invisible⟩
    have hnot : ¬ SaysOk (line ++ addedBy rest) := fun h => (saysOk_addedBy.1 h).2 hmisread
    subst text
    have hvisible (tail : List Char) :
        ∃ c ∈ (okWord ++ blank :: blanks ++ tail).head?, isBlank c = false :=
      ⟨'O', rfl, by decide⟩
    constructor
    · rw [kind_ofTrimmed (by simpa using hvisible []), if_pos hok]
    · rw [kind_ofTrimmed (hvisible _), if_neg hnot, if_neg, if_neg]
      · simp [serviceErrorWords_eq, okWord]
      · simp [parseErrorWords_eq, okWord]
  | parseError text _ _ _ =>
    have hwords := prefix_addedBy_parseErrorWords.2 (.inr hmisread)
    subst text
    refine ⟨by decide, ?_⟩
    rw [kind_ofTrimmed ⟨'P', rfl, by decide⟩, if_neg, if_pos hwords]
    rintro ⟨tail, htail, -⟩
    simp [parseWord, okWord] at htail
  | serviceError text _ _ _ =>
    have hwords := prefix_addedBy_serviceErrorWords.2 (.inr hmisread)
    subst text
    refine ⟨by decide, ?_⟩
    rw [kind_ofTrimmed ⟨'S', rfl, by decide⟩, if_neg, if_neg, if_pos hwords]
    · simp [parseErrorWords_eq, serviceWord]
    · rintro ⟨tail, htail, -⟩
      simp [serviceWord, okWord] at htail

namespace Outcome

/-- The verdicts on all lines of a client and on its summary alone, by the front of the summary. -/
theorem verdict_of_summary {lines : List String} {summary : String}
    (first : lines.dropWhile (fun line => allBlank line.toList) = summary :: rest) :
    (∃ c ∈ (trimStart summary.toList).head?, isBlank c = false) ∧
      (ofLines [summary]).verdict = ofTrimmed (trimEnd (trimStart summary.toList)) ∧
      (ofLines lines).verdict =
        ofTrimmed (trimEnd (trimStart summary.toList ++ addedBy rest)) := by
  let front := lines.takeWhile fun line => allBlank line.toList
  have hlines : lines = front ++ summary :: rest := by
    rw [← first, List.takeWhile_append_dropWhile]
  have hfront : ∀ line ∈ front, allBlank line.toList = true := fun _ => List.mem_takeWhile_imp
  have hsummary : allBlank summary.toList = false := by
    have hhead := List.head_dropWhile_not (fun line : String => allBlank line.toList)
      (l := lines) (by simp [first])
    simpa [first] using hhead
  have hne : trimStart summary.toList ≠ [] := by
    rw [ne_eq, trimStart_eq_nil_iff, hsummary]
    exact Bool.false_ne_true
  have hstart (tail : List Char) :
      trim (summary.toList ++ tail) = trimEnd (trimStart summary.toList ++ tail) := by
    rw [trim, trimStart, List.dropWhile_append, if_neg (by simpa [trimStart] using hne), trimStart]
  refine ⟨?_, ?_, ?_⟩
  · exact ⟨_, List.head?_eq_some_head hne, visible_trimStart _ _ (List.head?_eq_some_head hne)⟩
  · have hone := verdict_ofLines_append (List.forall_mem_nil _) summary []
    rw [List.nil_append, hstart, addedBy_nil, List.append_nil] at hone
    exact hone
  · rw [hlines, verdict_ofLines_append hfront, hstart]

/-- **Verdicts and summary lines.** Let a client write lines, of which the first that is not blank
is its summary. Then the verdict on all lines is of the same kind as the verdict on the summary
alone, unless the summary, without the blanks in front, is misread:

* It is the word of acceptance with blanks behind it, the first of which is no space, and a line
  behind it is not blank. Then the verdict is `ok` for the summary and `other` for all lines.
* It is the first word of an error, and the next line begins with the second. Then the verdict is
  `other` for the summary and that error for all lines. -/
theorem kind_verdict_ofLines {lines : List String} {summary : String}
    (first : lines.dropWhile (fun line => allBlank line.toList) = summary :: rest) :
    ((ofLines lines).verdict.kind = (ofLines [summary]).verdict.kind ↔
        ∀ alone whole, ¬ Misread (trimStart summary.toList) rest alone whole) ∧
      ∀ alone whole, Misread (trimStart summary.toList) rest alone whole →
        (ofLines [summary]).verdict.kind = alone ∧ (ofLines lines).verdict.kind = whole := by
  obtain ⟨visible, hsummary, hlines⟩ := verdict_of_summary first
  rw [hsummary, hlines]
  refine ⟨⟨fun same alone whole misread => ?_, kind_addedBy visible⟩, fun _ _ h => h.kinds⟩
  obtain ⟨halone, hwhole⟩ := misread.kinds
  rw [halone, hwhole] at same
  cases misread <;> cases same

/-- Behind a blank line, the words of a parse error are cut by the end of a line. -/
theorem kind_verdict_of_cut_words :
    ["\t", " Parse", "error: x"].dropWhile (fun line => allBlank line.toList) =
        [" Parse", "error: x"] ∧
      (ofLines [" Parse"]).verdict.kind = .other ∧
      (ofLines ["\t", " Parse", "error: x"]).verdict.kind = .parseError := by
  have first : ["\t", " Parse", "error: x"].dropWhile (fun line => allBlank line.toList) =
      [" Parse", "error: x"] := by decide
  obtain ⟨-, hmisread⟩ := kind_verdict_ofLines first
  exact ⟨first, hmisread _ _ (.parseError (by decide) "error: x" rfl (by decide))⟩

/-- The lines behind a summary change the kind of its verdict: they complete the words of an error,
and they take the end of the text away from a tab behind the word of acceptance. -/
theorem kind_verdict_of_joined_lines :
    (ofLines ["Parse", "error: x"]).verdict.kind ≠ (ofLines ["Parse"]).verdict.kind ∧
      (ofLines ["OK\t", "x"]).verdict.kind ≠ (ofLines ["OK\t"]).verdict.kind := by
  decide

end Outcome

end InspectionHost
