import InspectionHost.Proofs.Session.Automaton
import Mathlib.Data.List.DropRight

/-!
# The grammar of requests

A line that is not blank has parts: blanks, a verb, what stands behind the verb, and line ends. The
verb goes up to the first space, or up to the line ends when there is no space, and a space and all
that follows it up to the line ends stand behind the verb. The parts of a line are determined by the
line, and they determine the request.

Four notions of a blank meet here. The line ends are line feeds and carriage returns, the blanks in
front are those of Unicode, only U+0020 ends a verb, and a pattern counts as blank by Unicode again.
So a tab or a no-break space in front of a verb is skipped, and behind a verb it is part of the
verb.

## Main definitions

* `LineParts` : the parts of a line that is not blank.
* `AsksAbout` : a line asks about a pattern.
* `BeginsWith` : a line begins with a verb.

## Main results

* `exists_lineParts`, `LineParts.eq_of_text_eq` : a line that is not blank has parts, and no others.
* `LineParts.ofLine_text` : the request of a line with given parts.
* `ofLine_iff_grammar` : the requests are those of the grammar.
-/

namespace InspectionHost.Session

open InspectionHost.Text

/-! ### The parts of a line -/

/-- A verb: it begins with no blank, holds no space, and ends in no line end. -/
structure IsVerb (verb : List Char) : Prop where
  visible : ∃ c ∈ verb.head?, isBlank c = false
  solid : ' ' ∉ verb
  closed : ∀ c ∈ verb.getLast?, isLineEnd c = false

/-- What stands behind a verb, where `none` is no space. -/
def behindVerb : Option (List Char) → List Char
  | none => []
  | some rest => ' ' :: rest

/-- The parts of a line that is not blank. -/
structure LineParts where
  blanks : List Char
  verb : List Char
  /-- What stands behind the first space behind the blanks, if there is one. -/
  rest : Option (List Char)
  ends : List Char
  blank : allBlank blanks = true
  visible : ∃ c ∈ verb.head?, isBlank c = false
  solid : ' ' ∉ verb
  ending : ends.all isLineEnd = true
  /-- All line ends at the end of the line are among the `ends`. -/
  closed : ∀ c ∈ (verb ++ behindVerb rest).getLast?, isLineEnd c = false

namespace LineParts

variable (p q : LineParts)

/-- The verb and what stands behind it. -/
def core : List Char :=
  p.verb ++ behindVerb p.rest

/-- The line with the given parts. -/
def text : List Char :=
  p.blanks ++ p.core ++ p.ends

theorem verb_ne_nil : p.verb ≠ [] := by
  obtain ⟨c, hc, -⟩ := p.visible
  exact List.ne_nil_of_mem (List.mem_of_head? hc)

theorem core_ne_nil : p.core ≠ [] :=
  List.append_ne_nil_of_left_ne_nil p.verb_ne_nil _

theorem allBlank_text : allBlank p.text = false := by
  obtain ⟨c, hc, visible⟩ := p.visible
  rw [allBlank, List.all_eq_false]
  refine ⟨c, ?_, by simp [visible]⟩
  simp [text, core, List.mem_of_head? hc]

theorem dropLineEnd_text : dropLineEnd p.text = p.blanks ++ p.core := by
  refine dropLineEnd_append_of_all p.ending fun c hc => p.closed c ?_
  rwa [List.getLast?_append_of_ne_nil _ p.core_ne_nil] at hc

theorem trimStart_dropLineEnd_text : trimStart (dropLineEnd p.text) = p.core := by
  have hcore : trimStart p.core = p.core := by
    rw [trimStart_eq_self_iff, core, List.head?_append_of_ne_nil _ p.verb_ne_nil]
    obtain ⟨c, hc, visible⟩ := p.visible
    intro c' hc'
    obtain rfl : c = c' := Option.some.inj (hc.symm.trans hc')
    exact visible
  rw [dropLineEnd_text, trimStart, List.dropWhile_append_of_pos (by simpa [allBlank] using p.blank)]
  exact hcore

theorem takeWhile_core : p.core.takeWhile (· != ' ') = p.verb := by
  have hsolid : ∀ c ∈ p.verb, (c != ' ') = true := by
    intro c hc
    rw [bne_iff_ne]
    rintro rfl
    exact p.solid hc
  rw [core, List.takeWhile_append_of_pos hsolid]
  cases p.rest <;> simp [behindVerb]

theorem splitVerb_core : Request.splitVerb p.core = (p.verb, p.rest.getD []) := by
  have hbehind : p.core.dropWhile (· != ' ') = behindVerb p.rest := by
    have hall := p.core.takeWhile_append_dropWhile (p := (· != ' '))
    rw [takeWhile_core, core] at hall
    exact List.append_cancel_left hall
  rw [Request.splitVerb, takeWhile_core, hbehind]
  cases p.rest <;> rfl

/-- The request of a line is that of its verb and what stands behind it. -/
theorem ofLine_text : Request.ofLine p.text =
    Request.ofVerb (String.ofList p.verb) (String.ofList (p.rest.getD [])) := by
  rw [Request.ofLine, allBlank_dropLineEnd, allBlank_text, trimStart_dropLineEnd_text,
    splitVerb_core, if_neg Bool.false_ne_true]

variable {p q}

/-- A line has one verb, and one text behind it. -/
theorem eq_of_text_eq (h : p.text = q.text) : p.verb = q.verb ∧ p.rest = q.rest := by
  have hcore : p.core = q.core := by
    rw [← trimStart_dropLineEnd_text, h, trimStart_dropLineEnd_text]
  have hverb : p.verb = q.verb := by rw [← takeWhile_core, hcore, takeWhile_core]
  refine ⟨hverb, ?_⟩
  have hbehind : behindVerb p.rest = behindVerb q.rest := by
    rw [core, core, hverb] at hcore
    exact List.append_cancel_left hcore
  cases hp : p.rest <;> cases hq : q.rest <;> simp_all [behindVerb]

end LineParts

theorem exists_ends (text : List Char) : ∃ ends, ends.all isLineEnd = true ∧
    text = dropLineEnd text ++ ends ∧ ∀ c ∈ (dropLineEnd text).getLast?, isLineEnd c = false := by
  refine ⟨text.rtakeWhile isLineEnd, ?_, ?_, fun c hc => ?_⟩
  · rw [List.all_eq_true]
    exact fun c hc => List.mem_rtakeWhile_imp hc
  · exact List.rdropWhile_append_rtakeWhile.symm
  · have hne : dropLineEnd text ≠ [] := List.ne_nil_of_mem (List.mem_of_getLast? hc)
    have hlast := List.rdropWhile_last_not isLineEnd text hne
    obtain rfl := Option.some.inj ((List.getLast?_eq_some_getLast hne).symm.trans hc)
    exact Bool.eq_false_iff.2 hlast

/-- A text that begins with no blank begins with a verb. -/
theorem exists_behindVerb {text : List Char} (h : ∃ c ∈ text.head?, isBlank c = false) :
    ∃ verb rest, text = verb ++ behindVerb rest ∧ ' ' ∉ verb ∧
      ∃ c ∈ verb.head?, isBlank c = false := by
  obtain ⟨c, hc, visible⟩ := h
  obtain ⟨cs, rfl⟩ := List.head?_eq_some_iff.1 hc
  have hplain : (c != ' ') = true := by
    rw [bne_iff_ne]
    rintro rfl
    contradiction
  have hsolid : ' ' ∉ (c :: cs).takeWhile (· != ' ') :=
    fun there => by simpa using List.mem_takeWhile_imp there
  have hwhole := (c :: cs).takeWhile_append_dropWhile (p := (· != ' '))
  cases htail : (c :: cs).dropWhile (· != ' ') with
  | nil =>
    rw [htail] at hwhole
    exact ⟨_, none, hwhole.symm, hsolid, c, by simp [hplain], visible⟩
  | cons c' rest =>
    obtain rfl : c' = ' ' := by
      have hnot := List.head_dropWhile_not (· != ' ') (l := c :: cs) (by simp [htail])
      simpa [htail] using hnot
    rw [htail] at hwhole
    exact ⟨_, some rest, hwhole.symm, hsolid, c, by simp [hplain], visible⟩

/-- A line that is not blank has parts. -/
theorem exists_lineParts {text : List Char} (h : allBlank text = false) :
    ∃ p : LineParts, p.text = text := by
  obtain ⟨ends, ending, whole, last⟩ := exists_ends text
  generalize hline : dropLineEnd text = line at whole last
  have hblank : allBlank line = false := by rw [← hline, allBlank_dropLineEnd, h]
  have hparts := line.takeWhile_append_dropWhile (p := isBlank)
  have hne : line.dropWhile isBlank ≠ [] := by
    rw [Ne, dropWhile_eq_nil_iff, ← allBlank, hblank]
    exact Bool.false_ne_true
  obtain ⟨verb, rest, hcore, solid, visible⟩ := exists_behindVerb
    ⟨_, List.head?_eq_some_head hne, List.head_dropWhile_not isBlank hne⟩
  refine ⟨⟨line.takeWhile isBlank, verb, rest, ends, List.all_takeWhile, visible, solid, ending,
    fun c hc => last c ?_⟩, ?_⟩
  · rw [← hparts, List.getLast?_append_of_ne_nil _ hne, hcore]
    exact hc
  · change line.takeWhile isBlank ++ (verb ++ behindVerb rest) ++ ends = text
    rw [← hcore, hparts, ← whole]

/-! ### The grammar -/

/-- The verbs that take a pattern. -/
def patternVerbs : List String := ["parse", "explain", "match"]

/-- The other verbs. -/
def plainVerbs : List String := ["quit", "exit", "help", "?"]

/-- A line asks about a pattern: behind blanks stands a verb, a space, the pattern and line ends,
where the pattern is not blank and does not end in a line end. -/
def AsksAbout (verb pattern : String) (text : List Char) : Prop :=
  ∃ blanks ends, text = blanks ++ verb.toList ++ ' ' :: pattern.toList ++ ends ∧
    allBlank blanks = true ∧ ends.all isLineEnd = true ∧
    (∃ c ∈ pattern.toList, isBlank c = false) ∧ ∀ c ∈ pattern.toList.getLast?, isLineEnd c = false

/-- A line begins with a verb: behind blanks stands the verb, and then line ends only, or a
space. -/
def BeginsWith (verb : String) (text : List Char) : Prop :=
  ∃ blanks tail, text = blanks ++ verb.toList ++ tail ∧ allBlank blanks = true ∧
    (tail.all isLineEnd = true ∨ ∃ rest, tail = ' ' :: rest)

theorem isVerb_of_mem {verb : String} (h : verb ∈ patternVerbs ++ plainVerbs) :
    IsVerb verb.toList := by
  simp only [patternVerbs, plainVerbs, List.cons_append, List.nil_append, List.mem_cons,
    List.not_mem_nil, or_false] at h
  rcases h with rfl | rfl | rfl | rfl | rfl | rfl | rfl <;>
    exact ⟨⟨_, rfl, by decide⟩, by decide, by simp; decide⟩

variable {verb pattern : String} {text : List Char}

theorem AsksAbout.exists_parts (hverb : IsVerb verb.toList) (h : AsksAbout verb pattern text) :
    ∃ p : LineParts, p.text = text ∧ p.verb = verb.toList ∧ p.rest = some pattern.toList := by
  obtain ⟨blanks, ends, rfl, blank, ending, ⟨c, hc, -⟩, last⟩ := h
  have hne : pattern.toList ≠ [] := List.ne_nil_of_mem hc
  have hlast : (verb.toList ++ behindVerb (some pattern.toList)).getLast? =
      pattern.toList.getLast? := by
    rw [behindVerb, ← List.singleton_append, ← List.append_assoc,
      List.getLast?_append_of_ne_nil _ hne]
  refine ⟨⟨blanks, verb.toList, some pattern.toList, ends, blank, hverb.visible, hverb.solid,
    ending, by rwa [hlast]⟩, ?_, rfl, rfl⟩
  simp [LineParts.text, LineParts.core, behindVerb]

theorem BeginsWith.exists_parts (hverb : IsVerb verb.toList) (h : BeginsWith verb text) :
    ∃ p : LineParts, p.text = text ∧ p.verb = verb.toList := by
  obtain ⟨blanks, tail, rfl, blank, ending | ⟨rest, rfl⟩⟩ := h
  · exact ⟨⟨blanks, verb.toList, none, tail, blank, hverb.visible, hverb.solid, ending,
      by simpa [behindVerb] using hverb.closed⟩,
      by simp [LineParts.text, LineParts.core, behindVerb], rfl⟩
  · obtain ⟨ends, ending, whole, last⟩ := exists_ends rest
    refine ⟨⟨blanks, verb.toList, some (dropLineEnd rest), ends, blank, hverb.visible, hverb.solid,
      ending, fun c hc => ?_⟩, ?_, rfl⟩
    · cases hline : dropLineEnd rest with
      | nil =>
        rw [hline, behindVerb, List.getLast?_concat] at hc
        obtain rfl := Option.some.inj hc
        rfl
      | cons c' cs =>
        rw [behindVerb, ← List.singleton_append, ← List.append_assoc,
          List.getLast?_append_of_ne_nil _ (by simp [hline])] at hc
        exact last c hc
    · simp [LineParts.text, LineParts.core, behindVerb, ← whole]

namespace LineParts

/-- A line asks about the text behind its verb. -/
theorem asksAbout_iff (p : LineParts) (hverb : IsVerb verb.toList) :
    AsksAbout verb pattern p.text ↔ String.ofList p.verb = verb ∧
      String.ofList (p.rest.getD []) = pattern ∧ allBlank pattern.toList = false := by
  constructor
  · intro h
    obtain ⟨q, htext, hq, hrest⟩ := h.exists_parts hverb
    obtain ⟨-, -, -, -, -, ⟨c, hc, visible⟩, -⟩ := h
    obtain ⟨sameVerb, sameRest⟩ := eq_of_text_eq htext
    refine ⟨by rw [← sameVerb, hq, String.ofList_toList],
      by rw [← sameRest, hrest, Option.getD_some, String.ofList_toList], ?_⟩
    rw [allBlank, List.all_eq_false]
    exact ⟨c, hc, by simp [visible]⟩
  · rintro ⟨rfl, rfl, usable⟩
    rw [String.toList_ofList, allBlank, List.all_eq_false] at usable
    obtain ⟨c, hc, visible⟩ := usable
    obtain ⟨rest, hrest⟩ : ∃ rest, p.rest = some rest := by
      rw [← Option.isSome_iff_exists, Option.isSome_iff_ne_none]
      intro hnone
      simp [hnone] at hc
    rw [hrest, Option.getD_some] at hc
    have hlast := p.closed
    rw [hrest, behindVerb, ← List.singleton_append, ← List.append_assoc,
      List.getLast?_append_of_ne_nil _ (List.ne_nil_of_mem hc)] at hlast
    refine ⟨p.blanks, p.ends, ?_, p.blank, p.ending, ⟨c, ?_, by simpa using visible⟩, ?_⟩
    · simp [text, core, behindVerb, hrest]
    · simpa [hrest] using hc
    · simpa [hrest] using hlast

theorem beginsWith_verb (p : LineParts) : BeginsWith (String.ofList p.verb) p.text := by
  refine ⟨p.blanks, behindVerb p.rest ++ p.ends, by simp [text, core], p.blank, ?_⟩
  cases p.rest with
  | none => exact .inl (by simpa [behindVerb] using p.ending)
  | some rest => exact .inr ⟨rest ++ p.ends, rfl⟩

theorem beginsWith_iff (p : LineParts) (hverb : IsVerb verb.toList) :
    BeginsWith verb p.text ↔ String.ofList p.verb = verb := by
  constructor
  · intro h
    obtain ⟨q, htext, hq⟩ := h.exists_parts hverb
    rw [← (eq_of_text_eq htext).1, hq, String.ofList_toList]
  · rintro rfl
    exact p.beginsWith_verb

end LineParts

/-! ### The requests of lines -/

/-- What a verb and the text behind it ask for. -/
inductive Means (verb rest : String) : Request → Prop where
  | parse (named : verb = "parse") (usable : allBlank rest.toList = false) :
    Means verb rest (.run (.parse rest))
  | explain (named : verb = "explain") (usable : allBlank rest.toList = false) :
    Means verb rest (.run (.explain rest))
  | candidates (named : verb = "match") (usable : allBlank rest.toList = false) :
    Means verb rest (.candidates rest)
  | help (named : verb = "help" ∨ verb = "?") : Means verb rest .help
  | quit (named : verb = "quit" ∨ verb = "exit") : Means verb rest .quit
  | empty (named : verb ∈ patternVerbs) (blank : allBlank rest.toList = true) :
    Means verb rest (.invalid (.emptyPattern verb))
  | unknown (named : verb ∉ patternVerbs ++ plainVerbs) :
    Means verb rest (.invalid (.unknownVerb verb))

/-- Where a pattern is needed, it is the text behind the verb, unless that is blank. -/
theorem needingPattern_eq (verb rest : String) (request : String → Request) :
    Request.needingPattern verb rest request =
      if allBlank rest.toList then .invalid (.emptyPattern verb) else request rest := by
  rw [Request.needingPattern, Command.requirePattern?]
  by_cases blank : allBlank rest.toList <;> simp [blank]

theorem means_ofVerb (verb rest : String) : Means verb rest (Request.ofVerb verb rest) := by
  have needing {request : String → Request} (named : verb ∈ patternVerbs)
      (asks : allBlank rest.toList = false → Means verb rest (request rest)) :
      Means verb rest (Request.needingPattern verb rest request) := by
    rw [needingPattern_eq]
    split
    · exact .empty named ‹_›
    · exact asks (Bool.eq_false_iff.2 ‹_›)
  unfold Request.ofVerb
  split
  · exact needing (by decide) (.parse rfl)
  · exact needing (by decide) (.explain rfl)
  · exact needing (by decide) (.candidates rfl)
  · exact .help (.inl rfl)
  · exact .help (.inr rfl)
  · exact .quit (.inl rfl)
  · exact .quit (.inr rfl)
  · exact .unknown (by simp_all [patternVerbs, plainVerbs])

theorem Means.ofVerb_eq {verb rest : String} {request : Request} (h : Means verb rest request) :
    Request.ofVerb verb rest = request := by
  cases h with
  | parse named usable | explain named usable | candidates named usable =>
    subst named
    simp [Request.ofVerb, needingPattern_eq, usable]
  | help named | quit named => rcases named with rfl | rfl <;> rfl
  | empty named blank =>
    simp only [patternVerbs, List.mem_cons, List.not_mem_nil, or_false] at named
    rcases named with rfl | rfl | rfl <;> simp [Request.ofVerb, needingPattern_eq, blank]
  | unknown named =>
    simp only [patternVerbs, plainVerbs, List.cons_append, List.nil_append, List.mem_cons,
      List.not_mem_nil, or_false, not_or] at named
    unfold Request.ofVerb
    split <;> simp_all

theorem LineParts.ofLine_eq_iff (p : LineParts) {request : Request} :
    Request.ofLine p.text = request ↔
      Means (String.ofList p.verb) (String.ofList (p.rest.getD [])) request := by
  rw [p.ofLine_text]
  exact ⟨fun h => h ▸ means_ofVerb _ _, Means.ofVerb_eq⟩

theorem ofLine_eq_blank_iff : Request.ofLine text = .blank ↔ allBlank text = true := by
  constructor
  · intro h
    by_contra visible
    obtain ⟨p, rfl⟩ := exists_lineParts (Bool.eq_false_iff.2 visible)
    cases p.ofLine_eq_iff.1 h
  · intro blank
    rw [Request.ofLine, allBlank_dropLineEnd, if_pos blank]

theorem exists_parts_of_ofLine {request : Request} (h : Request.ofLine text = request)
    (visible : request ≠ .blank) : ∃ p : LineParts, p.text = text ∧
      Means (String.ofList p.verb) (String.ofList (p.rest.getD [])) request := by
  have hblank : allBlank text = false := by
    rw [← Bool.not_eq_true, ← ofLine_eq_blank_iff, h]
    exact visible
  obtain ⟨p, rfl⟩ := exists_lineParts hblank
  exact ⟨p, rfl, p.ofLine_eq_iff.1 h⟩

/-- A verb that takes a pattern, with a pattern, is a request. The requests of one pattern are those
that its verb means. -/
theorem ofLine_eq_iff_asksAbout (request : String → Request)
    (hverb : verb ∈ patternVerbs)
    (means : ∀ verb' rest, Means verb' rest (request pattern) ↔
      verb' = verb ∧ rest = pattern ∧ allBlank pattern.toList = false)
    (visible : request pattern ≠ .blank) :
    Request.ofLine text = request pattern ↔ AsksAbout verb pattern text := by
  have isVerb := isVerb_of_mem (List.mem_append_left plainVerbs hverb)
  constructor
  · intro h
    obtain ⟨p, rfl, asked⟩ := exists_parts_of_ofLine h visible
    exact (p.asksAbout_iff isVerb).2 ((means ..).1 asked)
  · intro h
    obtain ⟨p, rfl, -, -⟩ := h.exists_parts isVerb
    exact p.ofLine_eq_iff.2 ((means ..).2 ((p.asksAbout_iff isVerb).1 h))

theorem ofLine_eq_parse_iff :
    Request.ofLine text = .run (.parse pattern) ↔ AsksAbout "parse" pattern text := by
  refine ofLine_eq_iff_asksAbout (fun p => .run (.parse p)) (by decide) ?_ nofun
  exact fun _ _ => ⟨fun | .parse named usable => ⟨named, rfl, usable⟩,
    fun ⟨named, same, usable⟩ => same ▸ .parse named (same ▸ usable)⟩

theorem ofLine_eq_explain_iff :
    Request.ofLine text = .run (.explain pattern) ↔ AsksAbout "explain" pattern text := by
  refine ofLine_eq_iff_asksAbout (fun p => .run (.explain p)) (by decide) ?_ nofun
  exact fun _ _ => ⟨fun | .explain named usable => ⟨named, rfl, usable⟩,
    fun ⟨named, same, usable⟩ => same ▸ .explain named (same ▸ usable)⟩

theorem ofLine_eq_candidates_iff :
    Request.ofLine text = .candidates pattern ↔ AsksAbout "match" pattern text := by
  refine ofLine_eq_iff_asksAbout .candidates (by decide) ?_ nofun
  exact fun _ _ => ⟨fun | .candidates named usable => ⟨named, rfl, usable⟩,
    fun ⟨named, same, usable⟩ => same ▸ .candidates named (same ▸ usable)⟩

/-- A verb that takes no pattern is a request by itself, whatever follows it. -/
theorem ofLine_eq_iff_beginsWith {request : Request} {verb' : String}
    (hverb : verb ∈ plainVerbs) (hverb' : verb' ∈ plainVerbs)
    (means : ∀ word rest, Means word rest request ↔ word = verb ∨ word = verb')
    (visible : request ≠ .blank) :
    Request.ofLine text = request ↔ BeginsWith verb text ∨ BeginsWith verb' text := by
  have isVerb := isVerb_of_mem (List.mem_append_right patternVerbs hverb)
  have isVerb' := isVerb_of_mem (List.mem_append_right patternVerbs hverb')
  constructor
  · intro h
    obtain ⟨p, rfl, asked⟩ := exists_parts_of_ofLine h visible
    rw [p.beginsWith_iff isVerb, p.beginsWith_iff isVerb']
    exact (means ..).1 asked
  · intro h
    obtain ⟨p, rfl⟩ : ∃ p : LineParts, p.text = text := by
      rcases h with h | h
      · exact (h.exists_parts isVerb).imp fun _ => And.left
      · exact (h.exists_parts isVerb').imp fun _ => And.left
    rw [p.beginsWith_iff isVerb, p.beginsWith_iff isVerb'] at h
    exact p.ofLine_eq_iff.2 ((means ..).2 h)

theorem ofLine_eq_quit_iff (text : List Char) :
    Request.ofLine text = .quit ↔ BeginsWith "quit" text ∨ BeginsWith "exit" text := by
  refine ofLine_eq_iff_beginsWith (by decide) (by decide) ?_ nofun
  exact fun _ _ => ⟨fun | .quit named => named, .quit⟩

theorem ofLine_eq_help_iff (text : List Char) :
    Request.ofLine text = .help ↔ BeginsWith "help" text ∨ BeginsWith "?" text := by
  refine ofLine_eq_iff_beginsWith (by decide) (by decide) ?_ nofun
  exact fun _ _ => ⟨fun | .help named => named, .help⟩

theorem ofLine_ne_matching (text : List Char) (pattern candidate : String) :
    Request.ofLine text ≠ .run (.matching pattern candidate) := by
  intro h
  obtain ⟨p, rfl, asked⟩ := exists_parts_of_ofLine h nofun
  cases asked

/-- A verb that is not known is told in a text of two spaces, and an empty pattern in one of
four. -/
theorem notInfix_message_unknownVerb {verb : String} (solid : ' ' ∉ verb.toList) :
    ¬ "Pattern must not be empty".toList <:+: (RequestFault.unknownVerb verb).message.toList := by
  intro h
  have hfew := h.sublist.count_le ' '
  have hfour : "Pattern must not be empty".toList.count ' ' = 4 := rfl
  have htwo : ("unknown command '" ++ verb ++ "'").toList.count ' ' = 2 := by
    have hfront : "unknown command '".toList.count ' ' = 2 := rfl
    have hback : "'".toList.count ' ' = 0 := rfl
    rw [String.toList_append, String.toList_append, List.count_append, List.count_append, hfront,
      hback, List.count_eq_zero.2 solid]
  have hmessage : (RequestFault.unknownVerb verb).message =
    "unknown command '" ++ verb ++ "'" := rfl
  rw [hmessage] at hfew
  omega

/-- The fault of a line: its verb takes a pattern and has none, or is not known. -/
theorem fault_of_ofLine {fault : RequestFault} (h : Request.ofLine text = .invalid fault) :
    ∃ p : LineParts, p.text = text ∧
      (String.ofList p.verb ∈ patternVerbs ∧ fault = .emptyPattern (String.ofList p.verb) ∨
        String.ofList p.verb ∉ patternVerbs ++ plainVerbs ∧
          fault = .unknownVerb (String.ofList p.verb)) := by
  obtain ⟨p, rfl, asked⟩ := exists_parts_of_ofLine h nofun
  refine ⟨p, rfl, ?_⟩
  cases asked with
  | empty named blank => exact .inl ⟨named, rfl⟩
  | unknown named => exact .inr ⟨named, rfl⟩

theorem message_of_ofLine {fault : RequestFault} (h : Request.ofLine text = .invalid fault) :
    "Pattern must not be empty".toList <:+: fault.message.toList ↔
      ∃ verb ∈ patternVerbs, BeginsWith verb text := by
  obtain ⟨p, rfl, ⟨named, rfl⟩ | ⟨named, rfl⟩⟩ := fault_of_ofLine h
  · refine iff_of_true ?_ ⟨_, named, p.beginsWith_verb⟩
    have hmessage : (RequestFault.emptyPattern (String.ofList p.verb)).message =
      String.ofList p.verb ++ ": " ++ "Pattern must not be empty" := rfl
    rw [hmessage, String.toList_append]
    exact (List.suffix_append _ _).isInfix
  · refine iff_of_false (notInfix_message_unknownVerb (by simpa using p.solid)) ?_
    rintro ⟨verb, hverb, begins⟩
    rw [p.beginsWith_iff (isVerb_of_mem (List.mem_append_left plainVerbs hverb))] at begins
    exact named (begins ▸ List.mem_append_left plainVerbs hverb)

theorem AsksAbout.unique {verb' pattern' : String} (hverb : verb ∈ patternVerbs)
    (hverb' : verb' ∈ patternVerbs) (h : AsksAbout verb pattern text)
    (h' : AsksAbout verb' pattern' text) : verb = verb' ∧ pattern = pattern' := by
  have isVerb := isVerb_of_mem (List.mem_append_left plainVerbs hverb)
  have isVerb' := isVerb_of_mem (List.mem_append_left plainVerbs hverb')
  obtain ⟨p, rfl, -, -⟩ := h.exists_parts isVerb
  obtain ⟨rfl, rfl, -⟩ := (p.asksAbout_iff isVerb).1 h
  obtain ⟨sameVerb, samePattern, -⟩ := (p.asksAbout_iff isVerb').1 h'
  exact ⟨sameVerb, samePattern⟩

/-- A line is refused exactly if it is neither blank nor one of the grammar. -/
theorem exists_fault_iff : (∃ fault, Request.ofLine text = .invalid fault) ↔
    allBlank text = false ∧ (∀ verb ∈ patternVerbs, ∀ pattern, ¬ AsksAbout verb pattern text) ∧
      ∀ verb ∈ plainVerbs, ¬ BeginsWith verb text := by
  simp only [← Bool.not_eq_true, ← ofLine_eq_blank_iff, patternVerbs, plainVerbs,
    List.forall_mem_cons, List.not_mem_nil, false_implies, implies_true, and_true,
    ← ofLine_eq_parse_iff, ← ofLine_eq_explain_iff, ← ofLine_eq_candidates_iff]
  have quit := ofLine_eq_quit_iff text
  have help := ofLine_eq_help_iff text
  have matching := ofLine_ne_matching text
  cases hline : Request.ofLine text with
  | run command => cases command <;> simp_all
  | help | quit => simp_all [or_iff_not_imp_left]
  | _ => simp_all

/-- **The grammar of requests.** For every line:

* It is a request for a pattern exactly if it is a verb that takes a pattern and the pattern,
  between blanks, a space and line ends, where the pattern is not blank and does not end in a line
  end. The pattern is taken character for character, and there is only one.
* It asks for nothing exactly if it is blank, and for quitting or help exactly if the first word
  behind the blanks, up to a space or up to the line ends, says so.
* Any other line is refused, and it is told that the pattern is empty exactly if its first word
  takes a pattern.
* No request for one call has a candidate. -/
theorem ofLine_iff_grammar (text : List Char) :
    (∀ pattern, Request.ofLine text = .run (.parse pattern) ↔ AsksAbout "parse" pattern text) ∧
    (∀ pattern, Request.ofLine text = .run (.explain pattern) ↔ AsksAbout "explain" pattern text) ∧
    (∀ pattern, Request.ofLine text = .candidates pattern ↔ AsksAbout "match" pattern text) ∧
    (∀ verb ∈ patternVerbs, ∀ verb' ∈ patternVerbs, ∀ pattern pattern',
      AsksAbout verb pattern text → AsksAbout verb' pattern' text →
        verb = verb' ∧ pattern = pattern') ∧
    (Request.ofLine text = .blank ↔ allBlank text = true) ∧
    (Request.ofLine text = .quit ↔ BeginsWith "quit" text ∨ BeginsWith "exit" text) ∧
    (Request.ofLine text = .help ↔ BeginsWith "help" text ∨ BeginsWith "?" text) ∧
    ((∃ fault, Request.ofLine text = .invalid fault) ↔
      allBlank text = false ∧ (∀ verb ∈ patternVerbs, ∀ pattern, ¬ AsksAbout verb pattern text) ∧
        ∀ verb ∈ plainVerbs, ¬ BeginsWith verb text) ∧
    (∀ fault, Request.ofLine text = .invalid fault →
      ("Pattern must not be empty".toList <:+: fault.message.toList ↔
        ∃ verb ∈ patternVerbs, BeginsWith verb text)) ∧
    ∀ pattern candidate, Request.ofLine text ≠ .run (.matching pattern candidate) :=
  ⟨fun _ => ofLine_eq_parse_iff, fun _ => ofLine_eq_explain_iff,
    fun _ => ofLine_eq_candidates_iff,
    fun _ hverb _ hverb' _ _ h h' => h.unique hverb hverb' h', ofLine_eq_blank_iff,
    ofLine_eq_quit_iff text, ofLine_eq_help_iff text, exists_fault_iff, fun _ => message_of_ofLine,
    ofLine_ne_matching text⟩

/-- A no-break space in front of a verb is skipped, and a tab behind it does not end it. -/
example : Request.ofLine "\u00A0parse\ta \r\n".toList = .invalid (.unknownVerb "parse\ta") := by
  decide

/-- A space in front of a pattern is part of it, and so is a carriage return within. -/
example : Request.ofLine "\tparse  a\rb \n\r".toList = .run (.parse " a\rb ") := by
  decide

end InspectionHost.Session
