import InspectionHost.Proofs.CommandLine.Levels

/-!
# Command lines in their parts

A command line is options, the name of an action, and arguments. It is understood exactly if both
sides of the name fit their levels, and what it says is then told by the options and texts: a
switch counts on either side, a value behind the name counts before one in front of it, and any
path of the configuration file counts before that of the environment.

## Main definitions

* `Layout` : a command line in its parts, with its words.
* `Layout.has`, `Layout.value?` : what a command line says of an option.
* `Layout.Fits` : both sides of the name fit their levels.

## Main results

* `Layout.ofWords_iff` : which command lines are understood, and what they say.
* `Layout.exists_of_ofWords` : every command line that is understood has such parts.
-/

namespace InspectionHost.CommandLine

/-! ### The end of a level -/

namespace Reading

/-- The choice of the configuration file at a level that has a path, or has none but the
environment. -/
def choice (environmentConfig : Option String) (q : Reading) : Option ConfigChoice :=
  match q.value? .config with
  | some path => some ⟨path, true⟩
  | none => environmentConfig.map (⟨·, false⟩)

/-- A level ends if it settles, where an empty path of the environment has to be overridden. -/
theorem finish_eq_ok_iff {environmentConfig : Option String} {r : Reading} {l : LevelResult} :
    r.finish environmentConfig = .ok l ↔ ∃ q, r.settle = .ok q ∧
      (environmentConfig = some "" → q.value? .config ≠ none) ∧
      l = ⟨q, q.choice environmentConfig⟩ := by
  constructor
  · intro finished
    obtain ⟨q, settled, ends⟩ := bind_eq_ok_iff.1 finished
    refine ⟨q, settled, ?_⟩
    cases given : q.value? .config with
    | some path =>
      simp only [given] at ends
      exact ⟨nofun, by rw [choice, given]; exact (Except.ok.inj ends).symm⟩
    | none =>
      cases environmentConfig with
      | none =>
        simp only [given] at ends
        exact ⟨nofun, by rw [choice, given]; exact (Except.ok.inj ends).symm⟩
      | some path =>
        simp only [given] at ends
        split at ends
        · cases ends
        · next visible =>
          refine ⟨fun blank => ?_, by rw [choice, given]; exact (Except.ok.inj ends).symm⟩
          obtain rfl : path = "" := Option.some.inj blank
          simp at visible
  · rintro ⟨q, settled, visible, rfl⟩
    refine bind_eq_ok_iff.2 ⟨q, settled, ?_⟩
    cases given : q.value? .config with
    | some path => simp only [choice, given]; rfl
    | none =>
      cases environmentConfig with
      | none => simp only [choice, given]; rfl
      | some path =>
        have visible : path ≠ "" := fun blank => visible (blank ▸ rfl) given
        simp only [choice, given, String.isEmpty_iff, if_neg visible]
        rfl

end Reading

namespace Invocation

/-- A command line is understood if both sides of the name of an action are read to their ends and
the texts make the action. -/
theorem ofWords_eq_ok_iff {environmentConfig : Option String} {words : List String}
    {i : Invocation} : ofWords environmentConfig words = .ok i ↔
      ∃ front name rest, Reading.words Level.top .start words = .ok (front, some (name, rest)) ∧
      ∃ behind x, Reading.words (Level.ofAction name) .start rest = .ok (behind, x) ∧
      ∃ inner, behind.finish environmentConfig = .ok inner ∧
      ∃ action, inner.reading.action name = .ok action ∧
      ∃ outer, front.finish environmentConfig = .ok outer ∧ i = ofLevels outer inner action := by
  constructor
  · intro understood
    obtain ⟨⟨front, rest?⟩, read, understood⟩ := bind_eq_ok_iff.1 understood
    cases rest? with
    | none =>
      obtain ⟨outer, -, refused⟩ := bind_eq_ok_iff.1 understood
      cases refused
    | some rest? =>
      obtain ⟨name, rest⟩ := rest?
      obtain ⟨⟨behind, x⟩, readBehind, understood⟩ := bind_eq_ok_iff.1 understood
      obtain ⟨inner, finishedBehind, understood⟩ := bind_eq_ok_iff.1 understood
      obtain ⟨action, acts, understood⟩ := bind_eq_ok_iff.1 understood
      obtain ⟨outer, finished, understood⟩ := bind_eq_ok_iff.1 understood
      exact ⟨front, name, rest, read, behind, x, readBehind, inner, finishedBehind, action, acts,
        outer, finished, (Except.ok.inj understood).symm⟩
  · rintro ⟨front, name, rest, read, behind, x, readBehind, inner, finishedBehind, action, acts,
      outer, finished, rfl⟩
    simp only [ofWords, read, readBehind, finishedBehind, acts, finished, bind, Except.bind]
    rfl

end Invocation

/-! ### Command lines in their parts -/

/-- A command line: options, the name of an action, and what stands behind it. -/
structure Layout where
  front : List WrittenOption
  name : ActionName
  behind : Behind

namespace Layout

/-- The words of a command line. -/
def words (L : Layout) : List String :=
  L.front.flatMap WrittenOption.words ++ L.name.word :: L.behind.words

/-- What is taken in front of the name. -/
def outer (L : Layout) : Reading :=
  .of L.front []

/-- What is taken behind the name. -/
def inner (L : Layout) : Reading :=
  .of L.behind.options L.behind.texts

/-- Whether an option without a value stands on either side. -/
def has (L : Layout) (s : Switch) : Bool :=
  L.outer.has s || L.inner.has s

/-- The value of an option: that behind the name, or else that in front of it. -/
def value? (L : Layout) (v : Valued) : Option String :=
  (L.inner.value? v).or (L.outer.value? v)

/-- What a command line says, for an action. The environment gives the path of the configuration
file only if the command line does not. -/
def invocation (L : Layout) (environmentConfig : Option String) (action : Action) :
    Invocation where
  verbose := L.has .verbose
  jsonOutput := L.has .jsonOutput
  config := (L.value? .config).or environmentConfig
  client := L.value? .client
  server := L.value? .server
  timeout := (L.value? .timeout).bind Reading.seconds?
  action := action

/-- A command line fits if both sides do, and an empty path of the environment is overridden on
both. -/
structure Fits (L : Layout) (environmentConfig : Option String) : Prop where
  front : Level.top.Fits L.front []
  behind : (Level.ofAction L.name).Fits L.behind.options L.behind.texts
  visible : environmentConfig = some "" →
    L.outer.value? .config ≠ none ∧ L.inner.value? .config ≠ none

variable {L L' : Layout} {environmentConfig : Option String} {i : Invocation}

theorem fits_iff : L.Fits environmentConfig ↔ Level.top.Fits L.front [] ∧
    (Level.ofAction L.name).Fits L.behind.options L.behind.texts ∧
    (environmentConfig = some "" →
      L.outer.value? .config ≠ none ∧ L.inner.value? .config ≠ none) := by
  constructor
  · rintro ⟨front, behind, visible⟩
    exact ⟨front, behind, visible⟩
  · rintro ⟨front, behind, visible⟩
    exact ⟨front, behind, visible⟩

instance : Decidable (L.Fits environmentConfig) :=
  decidable_of_iff' _ fits_iff

theorem ofLevels_eq (L : Layout) (environmentConfig : Option String) (action : Action) :
    Invocation.ofLevels ⟨L.outer, L.outer.choice environmentConfig⟩
      ⟨L.inner, L.inner.choice environmentConfig⟩ action =
        L.invocation environmentConfig action := by
  have config : (Invocation.ofLevels ⟨L.outer, L.outer.choice environmentConfig⟩
      ⟨L.inner, L.inner.choice environmentConfig⟩ action).config =
        (L.value? .config).or environmentConfig := by
    cases inner : L.inner.value? .config <;> cases outer : L.outer.value? .config <;>
      cases environmentConfig <;>
        simp [Invocation.ofLevels, Reading.choice, ConfigChoice.merge, value?, inner, outer]
  simp only [Invocation.ofLevels] at config
  simp only [Invocation.ofLevels, invocation, config, has, value?]

/-- **A command line is understood** exactly if it fits and its texts make its action, and what it
says is told by its options. -/
theorem ofWords_iff : Invocation.ofWords environmentConfig L.words = .ok i ↔
    L.Fits environmentConfig ∧ ∃ action, L.inner.action L.name = .ok action ∧
      i = L.invocation environmentConfig action := by
  rw [Invocation.ofWords_eq_ok_iff]
  constructor
  · rintro ⟨front, name, rest, read, behind, x, readBehind, inner, finishedBehind, action, acts,
      outer, finished, rfl⟩
    obtain ⟨q, settled, visible, rfl⟩ := Reading.finish_eq_ok_iff.1 finished
    obtain ⟨q', settled', visible', rfl⟩ := Reading.finish_eq_ok_iff.1 finishedBehind
    obtain ⟨rfl, rfl⟩ : L.name = name ∧ L.behind.words = rest := by
      have read' := read
      rw [words, Reading.words_front] at read'
      obtain ⟨r, -, handed⟩ := bind_eq_ok_iff.1 read'
      simpa using (Prod.mk.inj (Except.ok.inj handed)).2
    obtain ⟨fits, rfl⟩ := Reading.front_iff.1 ⟨front, read, settled⟩
    obtain ⟨fits', rfl⟩ := Reading.behind_iff.1 ⟨behind, x, readBehind, settled'⟩
    exact ⟨⟨fits, fits', fun blank => ⟨visible blank, visible' blank⟩⟩, action, acts,
      L.ofLevels_eq environmentConfig action⟩
  · rintro ⟨fits, action, acts, rfl⟩
    obtain ⟨front, read, settled⟩ := Reading.front_iff.2 ⟨fits.front, rfl⟩
    obtain ⟨behind, x, readBehind, settled'⟩ := Reading.behind_iff.2 ⟨fits.behind, rfl⟩
    exact ⟨front, L.name, L.behind.words, read, behind, x, readBehind, _,
      Reading.finish_eq_ok_iff.2 ⟨_, settled', fun blank => (fits.visible blank).2, rfl⟩, action,
      acts, _, Reading.finish_eq_ok_iff.2 ⟨_, settled, fun blank => (fits.visible blank).1, rfl⟩,
      (L.ofLevels_eq environmentConfig action).symm⟩

theorem ofWords_of_fits (fits : L.Fits environmentConfig) {action : Action}
    (acts : L.inner.action L.name = .ok action) :
    Invocation.ofWords environmentConfig L.words = .ok (L.invocation environmentConfig action) :=
  ofWords_iff.2 ⟨fits, action, acts, rfl⟩

/-- **Every command line that is understood** has such parts. -/
theorem exists_of_ofWords {words : List String}
    (understood : Invocation.ofWords environmentConfig words = .ok i) :
    ∃ L : Layout, L.words = words := by
  obtain ⟨front, name, rest, read, behind, x, readBehind, inner, finishedBehind, action, acts,
    outer, finished, rfl⟩ := Invocation.ofWords_eq_ok_iff.1 understood
  obtain ⟨q, settled, -⟩ := Reading.finish_eq_ok_iff.1 finished
  obtain ⟨q', settled', -⟩ := Reading.finish_eq_ok_iff.1 finishedBehind
  obtain ⟨os, rfl⟩ := Reading.exists_front read settled
  obtain ⟨b, rfl⟩ := Reading.exists_behind readBehind settled'
  exact ⟨⟨os, name, b⟩, rfl⟩

end Layout

end InspectionHost.CommandLine
