import InspectionHost.Client.LineReader
import InspectionHost.Outcome
import InspectionHost.Proofs.Text.Lossy
import Mathlib.Data.List.Infix

/-!
# The text of an output

The bytes of a client become lines, each read lossily by itself, and the lines become one text with
single spaces between them. The same text comes of the bytes as a whole: they are read lossily, one
line terminator at the end is taken away, and every other line terminator becomes a space. A line
terminator is a line feed together with at most one carriage return in front of it.

A line feed is no part of what is read, however broken the bytes are, so an output has no line feed
in its text.

## Main definitions

* `Text.withoutLast` : a list without an element at its end.
* `Text.dropTerminator`, `Text.spaceOut` : a text without the line terminator at its end, and with
  spaces for line terminators.

## Main results

* `readLines_append_cons`, `readLines_of_notMem` : the lines of bytes, one by one.
* `lineFeed_notMem_joinLines_readLines` : the text of an output is one line.
* `toList_joinLines_readLines` : the text of an output.
-/

namespace InspectionHost

open InspectionHost.Text

namespace Text

/-! ### Line terminators -/

section WithoutLast

variable {α : Type} [DecidableEq α]

/-- A list without an element at its end, if it is there. -/
def withoutLast (a : α) (as : List α) : List α :=
  if as.getLast? = some a then as.dropLast else as

@[simp] theorem withoutLast_nil (a : α) : withoutLast a [] = [] :=
  rfl

@[simp] theorem withoutLast_concat (a : α) (as : List α) : withoutLast a (as ++ [a]) = as := by
  simp [withoutLast]

theorem withoutLast_of_ne {a : α} {as : List α} (h : as.getLast? ≠ some a) :
    withoutLast a as = as :=
  if_neg h

theorem withoutLast_append_of_ne_nil (a : α) (front : List α) {as : List α} (h : as ≠ []) :
    withoutLast a (front ++ as) = front ++ withoutLast a as := by
  rw [withoutLast, withoutLast, List.getLast?_append_of_ne_nil _ h,
    List.dropLast_append_of_ne_nil h]
  split <;> rfl

theorem mem_of_mem_withoutLast {a b : α} {as : List α} (h : b ∈ withoutLast a as) : b ∈ as := by
  unfold withoutLast at h
  split at h
  · exact List.mem_of_mem_dropLast h
  · exact h

/-- What holds of lists without a mark, and of a list if it holds behind its first mark, holds of
all lists. -/
theorem line_induction (mark : α) {motive : List α → Prop}
    (last : ∀ as, mark ∉ as → motive as)
    (line : ∀ body rest, mark ∉ body → motive rest → motive (body ++ mark :: rest))
    (as : List α) : motive as := by
  by_cases h : mark ∈ as
  · obtain ⟨body, rest, whole, hbody⟩ := List.eq_append_cons_of_mem h
    have shorter : rest.length < as.length := by
      rw [whole, List.length_append, List.length_cons]
      omega
    exact whole ▸ line body rest hbody (line_induction mark last line rest)
  · exact last as h
termination_by as.length

end WithoutLast

/-- A text without the line terminator at its end, if it has one: a line feed, and a carriage return
in front of that. -/
def dropTerminator (text : List Char) : List Char :=
  if text.getLast? = some '\n' then withoutLast '\r' text.dropLast else text

/-- A text with a space for each line terminator: a line feed is written as a space, and a carriage
return directly in front of one is not written. -/
def spaceOut : List Char → List Char
  | [] => []
  | c :: cs =>
    if c = '\n' then ' ' :: spaceOut cs
    else if c = '\r' ∧ cs.head? = some '\n' then spaceOut cs
    else c :: spaceOut cs

theorem spaceOut_of_notMem {text : List Char} (h : '\n' ∉ text) : spaceOut text = text := by
  induction text with
  | nil => rfl
  | cons c cs ih =>
    obtain ⟨hc, hcs⟩ : '\n' ≠ c ∧ '\n' ∉ cs := by simpa using h
    have hnext : cs.head? ≠ some '\n' := fun hhead => hcs (List.mem_of_head? hhead)
    rw [spaceOut, if_neg hc.symm, if_neg fun h => hnext h.2, ih hcs]

/-- The first line terminator of a text is written as a space. -/
theorem spaceOut_append_cons {body : List Char} (h : '\n' ∉ body) (rest : List Char) :
    spaceOut (body ++ '\n' :: rest) = withoutLast '\r' body ++ ' ' :: spaceOut rest := by
  induction body with
  | nil => simp [spaceOut]
  | cons c cs ih =>
    obtain ⟨hc, hcs⟩ : '\n' ≠ c ∧ '\n' ∉ cs := by simpa using h
    rw [List.cons_append, spaceOut, if_neg hc.symm, ih hcs]
    cases cs with
    | nil => by_cases hreturn : c = '\r' <;> simp [hreturn, withoutLast]
    | cons d ds =>
      have hd : d ≠ '\n' := fun same => hcs (by simp [same])
      have hfirst : withoutLast '\r' (c :: d :: ds) = c :: withoutLast '\r' (d :: ds) :=
        withoutLast_append_of_ne_nil '\r' [c] (List.cons_ne_nil d ds)
      rw [if_neg (by simp [hd]), hfirst]
      rfl

/-- Only the line terminator at the end is taken away. -/
theorem dropTerminator_append_cons (body : List Char) {rest : List Char} (h : rest ≠ []) :
    dropTerminator (body ++ '\n' :: rest) = body ++ '\n' :: dropTerminator rest := by
  have hfront : body ++ '\n' :: rest = (body ++ ['\n']) ++ rest := by simp
  rw [hfront, dropTerminator, dropTerminator, List.getLast?_append_of_ne_nil _ h]
  split
  · rw [List.dropLast_append_of_ne_nil h]
    by_cases hrest : rest.dropLast = []
    · rw [hrest, List.append_nil, withoutLast_of_ne (by simp)]
      rfl
    · rw [withoutLast_append_of_ne_nil _ _ hrest]
      simp
  · simp

/-- An ASCII byte at the end is taken away before or after bytes are read. -/
theorem decodeLossy_withoutLast {x : UInt8} (ascii : x < 0x80) (bs : List UInt8) :
    Utf8.decodeLossy (withoutLast x bs) =
      withoutLast (Char.ofNat x.toNat) (Utf8.decodeLossy bs) := by
  by_cases hlast : bs.getLast? = some x
  · obtain ⟨front, rfl⟩ := List.getLast?_eq_some_iff.1 hlast
    rw [withoutLast_concat, Utf8.decodeLossy_append_cons ascii, Utf8.decodeLossy_nil,
      withoutLast_concat]
  · rw [withoutLast_of_ne hlast,
      withoutLast_of_ne (mt (Utf8.getLast?_decodeLossy_iff ascii).1 hlast)]

end Text

/-! ### Lines -/

namespace LineReader

theorem feed_of_notMem {bs : List UInt8} (h : 0x0A ∉ bs) (r : LineReader) :
    r.feed bs = ⟨r.complete, bs.reverse ++ r.current⟩ := by
  induction bs generalizing r with
  | nil => rfl
  | cons b bs ih =>
    obtain ⟨hb, hbs⟩ : 0x0A ≠ b ∧ 0x0A ∉ bs := by simpa using h
    have hfirst : r.feedByte b = ⟨r.complete, b :: r.current⟩ := if_neg hb.symm
    calc r.feed (b :: bs)
        = (r.feedByte b).feed bs := rfl
      _ = ⟨r.complete, bs.reverse ++ b :: r.current⟩ := by rw [hfirst, ih hbs]
      _ = _ := by simp

/-- Lines that are complete stand in front of the others. -/
theorem finish_feed (done : List String) (current bs : List UInt8) :
    (feed ⟨done, current⟩ bs).finish = done.reverse ++ (feed ⟨[], current⟩ bs).finish := by
  induction bs generalizing done current with
  | nil =>
    change finish ⟨done, current⟩ = done.reverse ++ finish ⟨[], current⟩
    unfold finish
    dsimp only
    split <;> simp
  | cons b bs ih =>
    change ((feedByte ⟨done, current⟩ b).feed bs).finish =
      done.reverse ++ ((feedByte ⟨[], current⟩ b).feed bs).finish
    unfold feedByte
    split
    · rw [ih, ih [_]]
      simp
    · exact ih done _

/-- A carriage return at the end of a line is not read. -/
theorem lineText_dropReturn (body : List UInt8) : lineText (dropReturn body.reverse) =
    String.ofList (Utf8.decodeLossy (withoutLast 0x0D body)) := by
  have hbody : (dropReturn body.reverse).reverse = withoutLast 0x0D body := by
    by_cases hlast : body.getLast? = some 0x0D
    · obtain ⟨front, rfl⟩ := List.getLast?_eq_some_iff.1 hlast
      simp [dropReturn]
    · rw [withoutLast_of_ne hlast]
      cases hrev : body.reverse with
      | nil => simpa [dropReturn] using hrev
      | cons b bs =>
        have hb : b ≠ 0x0D := by
          rintro rfl
          rw [← List.head?_reverse, hrev] at hlast
          exact hlast rfl
        rw [dropReturn, if_neg hb, ← hrev, List.reverse_reverse]
  rw [lineText, hbody]

end LineReader

/-- It does not matter how the bytes are cut into pieces. -/
theorem readLines_flatten (pieces : List (List UInt8)) :
    readLines pieces = readLines [pieces.flatten] := by
  have hfeed : LineReader.start.feed pieces.flatten = pieces.foldl LineReader.feed .start :=
    List.foldl_flatten
  rw [readLines, readLines, List.foldl_cons, List.foldl_nil, hfeed]

/-- The bytes behind the last line feed are a line, unless there are none. -/
theorem readLines_of_notMem {bs : List UInt8} (h : 0x0A ∉ bs) :
    readLines [bs] = if bs = [] then [] else [String.ofList (Utf8.decodeLossy bs)] := by
  rw [readLines, List.foldl_cons, List.foldl_nil, LineReader.feed_of_notMem h]
  cases bs with
  | nil => rfl
  | cons b bs => simp [LineReader.start, LineReader.finish, LineReader.lineText]

/-- The first line of bytes is read by itself. -/
theorem readLines_append_cons {body : List UInt8} (h : 0x0A ∉ body) (rest : List UInt8) :
    readLines [body ++ 0x0A :: rest] =
      String.ofList (Utf8.decodeLossy (withoutLast 0x0D body)) :: readLines [rest] := by
  have hline : LineReader.start.feed (body ++ 0x0A :: rest) =
      LineReader.feed ⟨[LineReader.lineText (LineReader.dropReturn body.reverse)], []⟩ rest := by
    rw [LineReader.feed_append, LineReader.feed_of_notMem h]
    simp [LineReader.feed, LineReader.feedByte, LineReader.start]
  rw [readLines, List.foldl_cons, List.foldl_nil, hline, LineReader.finish_feed,
    LineReader.lineText_dropReturn]
  rfl

theorem readLines_ne_nil {bs : List UInt8} (h : bs ≠ []) : readLines [bs] ≠ [] := by
  induction bs using line_induction (0x0A : UInt8) with
  | last bs hbs => simp [readLines_of_notMem hbs, h]
  | line body rest hbody ih => simp [readLines_append_cons hbody]

theorem lineFeed_notMem_decodeLossy {bs : List UInt8} (h : 0x0A ∉ bs) :
    '\n' ∉ Utf8.decodeLossy bs :=
  mt (Utf8.mem_decodeLossy_iff (x := 0x0A) (by decide)).1 h

/-- No line has a line feed, whatever the bytes are. -/
theorem lineFeed_notMem_of_mem_readLines {pieces : List (List UInt8)} {line : String}
    (h : line ∈ readLines pieces) : '\n' ∉ line.toList := by
  rw [readLines_flatten] at h
  generalize pieces.flatten = bs at h
  induction bs using line_induction (0x0A : UInt8) with
  | last bs hbs =>
    rw [readLines_of_notMem hbs] at h
    split at h
    · exact (List.not_mem_nil h).elim
    · obtain rfl := List.mem_singleton.1 h
      rw [String.toList_ofList]
      exact lineFeed_notMem_decodeLossy hbs
  | line body rest hbody ih =>
    rw [readLines_append_cons hbody] at h
    rcases List.mem_cons.1 h with rfl | h
    · rw [String.toList_ofList]
      exact lineFeed_notMem_decodeLossy fun there => hbody (mem_of_mem_withoutLast there)
    · exact ih h

/-! ### The text of lines -/

/-- Lines are joined with a space between them. -/
theorem toList_joinLines (lines : List String) :
    (joinLines lines).toList = [' '].intercalate (lines.map String.toList) := by
  have hfold (text : String) (rest : List String) :
      (rest.foldl (fun text next => text ++ " " ++ next) text).toList =
        [' '].intercalate ((text :: rest).map String.toList) := by
    induction rest generalizing text with
    | nil => simp
    | cons next rest ih =>
      rw [List.foldl_cons, ih]
      cases rest <;> simp [List.intercalate_cons_cons]
  cases lines with
  | nil => rfl
  | cons line rest => exact hfold line rest

/-- The text of an output is one line. -/
theorem lineFeed_notMem_joinLines_readLines (pieces : List (List UInt8)) :
    '\n' ∉ (joinLines (readLines pieces)).toList := by
  have hlines (lines : List String) (h : ∀ line ∈ lines, '\n' ∉ line.toList) :
      '\n' ∉ [' '].intercalate (lines.map String.toList) := by
    induction lines with
    | nil => simp
    | cons line rest ih =>
      obtain ⟨hline, hrest⟩ := List.forall_mem_cons.1 h
      cases rest with
      | nil => simpa using hline
      | cons next rest =>
        have := ih hrest
        simp_all [List.intercalate_cons_cons]
  rw [toList_joinLines]
  exact hlines _ fun _ => lineFeed_notMem_of_mem_readLines

/-- The text of an output is that of its bytes as a whole, read lossily, without the line terminator
at the end and with spaces for the others. -/
theorem toList_joinLines_readLines (bs : List UInt8) :
    (joinLines (readLines [bs])).toList = spaceOut (dropTerminator (Utf8.decodeLossy bs)) := by
  induction bs using line_induction (0x0A : UInt8) with
  | last bs hbs =>
    have hread := lineFeed_notMem_decodeLossy hbs
    have hlast : (Utf8.decodeLossy bs).getLast? ≠ some '\n' :=
      fun there => hread (List.mem_of_getLast? there)
    rw [readLines_of_notMem hbs, dropTerminator, if_neg hlast, spaceOut_of_notMem hread]
    split
    · next hnil => rw [hnil, Utf8.decodeLossy_nil]; rfl
    · rw [joinLines, List.foldl_nil, String.toList_ofList]
  | line body rest hbody ih =>
    have hread := lineFeed_notMem_decodeLossy hbody
    have hparts : Utf8.decodeLossy (body ++ 0x0A :: rest) =
        Utf8.decodeLossy body ++ '\n' :: Utf8.decodeLossy rest :=
      Utf8.decodeLossy_append_cons (by decide) body rest
    have hbare : Utf8.decodeLossy (withoutLast 0x0D body) =
        withoutLast '\r' (Utf8.decodeLossy body) :=
      decodeLossy_withoutLast (by decide) body
    rw [readLines_append_cons hbody, toList_joinLines, List.map_cons, String.toList_ofList, hbare,
      hparts]
    cases hrest : rest with
    | nil =>
      -- The line feed that ends the bytes is the terminator that is taken away.
      have hone : readLines [[]] = [] := rfl
      rw [hone, List.map_nil, List.intercalate_singleton, Utf8.decodeLossy_nil, dropTerminator,
        List.getLast?_concat, if_pos rfl, List.dropLast_concat, spaceOut_of_notMem]
      exact fun there => hread (mem_of_mem_withoutLast there)
    | cons b bs =>
      have hne : rest ≠ [] := by simp [hrest]
      have hmore : Utf8.decodeLossy rest ≠ [] := by simp [hrest, Utf8.decodeLossy_cons]
      obtain ⟨line, lines, hlines⟩ := List.exists_cons_of_ne_nil (readLines_ne_nil hne)
      rw [← hrest, dropTerminator_append_cons _ hmore, spaceOut_append_cons hread, ← ih,
        toList_joinLines, hlines, List.map_cons, List.intercalate_cons_cons]
      simp

/-- **The text of an output.** Let a client write any bytes, and let them be read in any pieces.
Then:

* The lines, joined with single spaces, are the text of all the bytes, read lossily, without one
  line terminator at the end and with a space for every other line terminator.
* That text ends in a line feed exactly if the bytes do, and only then a terminator is taken away.
* To read the bytes between line feeds one by one brings the same characters, and the same
  replacement characters, as to read all of them. -/
theorem joinLines_readLines (pieces : List (List UInt8)) :
    (joinLines (readLines pieces)).toList =
        spaceOut (dropTerminator (Utf8.decodeLossy pieces.flatten)) ∧
      ((Utf8.decodeLossy pieces.flatten).getLast? = some '\n' ↔
        pieces.flatten.getLast? = some 0x0A) ∧
      ∀ parts, Utf8.decodeLossy ([0x0A].intercalate parts) =
        ['\n'].intercalate (parts.map Utf8.decodeLossy) := by
  refine ⟨?_, Utf8.getLast?_decodeLossy_iff (x := 0x0A) (by decide),
    Utf8.decodeLossy_intercalate (x := 0x0A) (by decide)⟩
  rw [readLines_flatten]
  exact toList_joinLines_readLines pieces.flatten

/-- Of two carriage returns in front of a line feed one stays, an empty line is a space more, a
carriage return at the end stays, and a character that a line feed cuts is replaced. -/
example : joinLines (readLines [[0x61, 0x0D, 0x0D, 0x0A], [0x0A, 0xE2, 0x82], [0x0A, 0x62, 0x0D]]) =
    "a\r  \uFFFD b\r" := by
  cbv

end InspectionHost
