import InspectionHost.Proofs.CommandLine.Layout
import InspectionHost.Settings.Load

/-!
# Where options stand

An option that all actions share is known on both sides of the name of an action. If it stands once,
then what fits does so wherever it stands, and what a command line says of it can be told from all
such options together. So it may stand anywhere, in front of the name or between the arguments
behind it. If it stands on both sides, the one behind the name wins.

## Main definitions

* `Layout.Once` : no shared option stands twice.
* `Layout.Moves` : two command lines differ by where their shared options stand.
* `Layout.Repeats` : an option that stands behind the name is repeated in front of it.

## Main results

* `Layout.Moves.fits`, `Layout.Moves.invocation_eq` : what moves fits and says the same.
* `Layout.ofWords_of_repeats` : the option behind the name wins.
* `Layout.anywhere` : shared options mean the same anywhere.
-/

namespace InspectionHost.CommandLine

/-! ### Options that all actions share -/

/-- All actions share an option without a value. -/
def Switch.isShared : Switch → Bool
  | verbose | jsonOutput => true
  | json | noServer => false

/-- All actions share an option. They share those with values. -/
def WrittenOption.isShared (o : WrittenOption) : Bool :=
  o.switch?.all Switch.isShared

/-- An argument is a text or an option of its action. -/
def Argument.isOwn (a : Argument) : Bool :=
  a.option?.all fun o => !o.isShared

theorem WrittenOption.isShared_eq {o : WrittenOption} {s : Switch} (switch : o.switch? = some s) :
    o.isShared = s.isShared := by
  rw [isShared, switch]
  rfl

theorem Level.knows_top_iff {s : Switch} : top.Knows s ↔ s.isShared = true := by
  cases s <;> decide

theorem Level.knows_ofAction (name : ActionName) {s : Switch} (shared : s.isShared = true) :
    (ofAction name).Knows s := by
  cases name <;> cases s <;> first | rfl | cases shared

namespace Level.Fits

variable {level : Level} {os os' : List WrittenOption} {ts : List String}

theorem perm (fits : level.Fits os ts) (arranged : os.Perm os') : level.Fits os' ts where
  known s there := fits.known s (arranged.mem_iff.2 there)
  switches := (arranged.filterMap _).nodup_iff.1 fits.switches
  values := ((arranged.filterMap _).map _).nodup_iff.1 fits.values
  checked entry there := fits.checked entry ((arranged.filterMap _).mem_iff.2 there)
  texts := fits.texts

theorem sublist (fits : level.Fits os ts) (part : os'.Sublist os) : level.Fits os' ts where
  known s there := fits.known s (part.subset there)
  switches := fits.switches.sublist (part.filterMap _)
  values := fits.values.sublist ((part.filterMap _).map _)
  checked entry there := fits.checked entry ((part.filterMap _).subset there)
  texts := fits.texts

/-- Options that do not stand among others fit beside them. -/
theorem append (fits : level.Fits os ts) (fits' : level.Fits os' [])
    (switches : ∀ s ∈ switchesOf os, s ∉ switchesOf os')
    (values : ∀ v ∈ (valuesOf os).map Prod.fst, v ∉ (valuesOf os').map Prod.fst) :
    level.Fits (os ++ os') ts where
  known s there := (List.mem_append.1 there).elim (fits.known s) (fits'.known s)
  switches := by
    rw [switchesOf, List.filterMap_append, List.nodup_append]
    exact ⟨fits.switches, fits'.switches, fun s there s' there' same =>
      switches s there (same ▸ there')⟩
  values := by
    rw [valuesOf, List.filterMap_append, List.map_append, List.nodup_append]
    exact ⟨fits.values, fits'.values, fun v there v' there' same =>
      values v there (same ▸ there')⟩
  checked entry there := by
    rw [valuesOf, List.filterMap_append] at there
    exact (List.mem_append.1 there).elim (fits.checked entry) (fits'.checked entry)
  texts := fits.texts

end Level.Fits

/-! ### Options that move -/

namespace Layout

variable {L L' : Layout} {environmentConfig : Option String} {i : Invocation}

/-- The shared options behind the name. -/
def sharedBehind (L : Layout) : List WrittenOption :=
  L.behind.options.filter WrittenOption.isShared

/-- The options of the action itself. -/
def own (L : Layout) : List WrittenOption :=
  L.behind.options.filter fun o => !o.isShared

/-- The shared options on both sides. -/
def shared (L : Layout) : List WrittenOption :=
  L.front ++ L.sharedBehind

/-- No shared option stands twice. -/
structure Once (L : Layout) : Prop where
  switches : (switchesOf L.shared).Nodup
  values : ((valuesOf L.shared).map Prod.fst).Nodup

/-- Command lines for one action, with the same texts and options of its own in the same order, and
with the same shared options, which may stand anywhere, but not behind a pair of dashes. -/
structure Moves (L L' : Layout) : Prop where
  name : L'.name = L.name
  own : L'.behind.arguments.filter Argument.isOwn = L.behind.arguments.filter Argument.isOwn
  trailing : L'.behind.trailing = L.behind.trailing
  shared : L.shared.Perm L'.shared

/-- Shared options that stand once fit every level that knows them. -/
theorem fits_shared (fits : L.Fits environmentConfig) (once : L.Once) {level : Level}
    (knows : ∀ s : Switch, s.isShared = true → level.Knows s) : level.Fits L.shared [] where
  known s there := by
    refine knows s ?_
    rcases List.mem_append.1 there with front | behind
    · exact Level.knows_top_iff.1 (fits.front.known s front)
    · simpa [WrittenOption.isShared, WrittenOption.switch?] using (List.mem_filter.1 behind).2
  switches := once.switches
  values := once.values
  checked entry there := by
    rw [shared, valuesOf, List.filterMap_append] at there
    rcases List.mem_append.1 there with front | behind
    · exact fits.front.checked entry front
    · exact fits.behind.checked entry ((List.filter_sublist.filterMap _).subset behind)
  texts := Nat.zero_le _

theorem own_append_sharedBehind (L : Layout) :
    (L.own ++ L.sharedBehind).Perm L.behind.options :=
  List.perm_append_comm.trans (List.filter_append_perm WrittenOption.isShared _)

theorem own_eq (L : Layout) : L.own = optionsOf (L.behind.arguments.filter Argument.isOwn) := by
  rw [own, Behind.options, optionsOf, List.filter_filterMap, optionsOf, List.filterMap_filter]
  congr 1
  funext a
  cases a with
  | option o => cases shared : o.isShared <;> simp [Argument.option?, Argument.isOwn, shared]
  | text t => rfl

theorem texts_eq (L : Layout) : L.behind.texts =
    textsOf (L.behind.arguments.filter Argument.isOwn) ++ L.behind.trailing.getD [] := by
  rw [Behind.texts, textsOf, textsOf, List.filterMap_filter]
  congr 2
  funext a
  cases a with
  | option o => simp [Argument.text?]
  | text t => rfl

theorem valuesOf_sharedBehind (L : Layout) :
    valuesOf L.sharedBehind = valuesOf L.behind.options := by
  rw [valuesOf, sharedBehind, List.filterMap_filter, valuesOf]
  congr 1
  funext o
  cases o with
  | long s => exact ite_self none
  | letter | attached v value | apart v value => rfl

theorem valuesOf_own (L : Layout) : valuesOf L.own = [] := by
  rw [valuesOf, own, List.filterMap_filter, List.filterMap_eq_nil_iff]
  intro o _
  cases o <;> simp [WrittenOption.isShared, WrittenOption.switch?, WrittenOption.value?]

/-- Which options without values stand behind the name can be told from the shared ones and those
of the action. -/
theorem mem_switchesOf_behind_iff (L : Layout) (s : Switch) : s ∈ switchesOf L.behind.options ↔
    s ∈ switchesOf (if s.isShared then L.sharedBehind else L.own) := by
  have select (p : WrittenOption → Bool) (selects : ∀ o, o.switch? = some s → p o = true) :
      s ∈ switchesOf (L.behind.options.filter p) ↔ s ∈ switchesOf L.behind.options := by
    simp only [switchesOf, List.mem_filterMap, List.mem_filter]
    constructor
    · rintro ⟨o, ⟨there, -⟩, switch⟩
      exact ⟨o, there, switch⟩
    · rintro ⟨o, there, switch⟩
      exact ⟨o, ⟨there, selects o switch⟩, switch⟩
  split
  · next shared => exact (select _ fun o switch => (o.isShared_eq switch).trans shared).symm
  · next own =>
    refine (select _ fun o switch => ?_).symm
    rw [o.isShared_eq switch]
    simpa using own

theorem has_eq (L : Layout) {s : Switch} (shared : s.isShared = true) :
    L.has s = decide (s ∈ switchesOf L.shared) := by
  have behind := L.mem_switchesOf_behind_iff s
  rw [if_pos shared] at behind
  simp only [has, outer, inner, Reading.has, Reading.of, Layout.shared, switchesOf,
    List.filterMap_append, List.mem_append, Bool.decide_or]
  congr 1
  exact decide_eq_decide.2 behind

theorem value?_eq (once : L.Once) (v : Valued) : L.value? v = (valuesOf L.shared).lookup v := by
  have arranged : (valuesOf L.shared).Perm (valuesOf L.sharedBehind ++ valuesOf L.front) := by
    rw [shared, valuesOf, List.filterMap_append]
    exact List.perm_append_comm
  rw [lookup_eq_of_perm arranged once.values, List.lookup_append, valuesOf_sharedBehind]
  rfl

/-- An option that stands once does not have a value on both sides. -/
theorem Once.outer_or_inner (once : L.Once) (v : Valued) :
    L.outer.value? v = none ∨ L.inner.value? v = none := by
  have keys := once.values
  rw [shared, valuesOf, List.filterMap_append, List.map_append, List.nodup_append] at keys
  cases outer : L.outer.value? v with
  | none => exact .inl rfl
  | some value =>
    refine .inr (List.lookup_eq_none_iff.2 fun entry there => ?_)
    have front : v ∈ (valuesOf L.front).map Prod.fst :=
      List.mem_map.2 ⟨(v, value), mem_of_lookup outer, rfl⟩
    have behind : entry.1 ∈ (valuesOf L.sharedBehind).map Prod.fst := by
      rw [valuesOf_sharedBehind]
      exact List.mem_map_of_mem there
    simpa using keys.2.2 v front entry.1 behind

theorem invocation_congr (has : ∀ s : Switch, s.isShared = true → L'.has s = L.has s)
    (value : ∀ v, L'.value? v = L.value? v) (environmentConfig : Option String) (action : Action) :
    L'.invocation environmentConfig action = L.invocation environmentConfig action := by
  have verbose : L'.has .verbose = L.has .verbose := has _ rfl
  have jsonOutput : L'.has .jsonOutput = L.has .jsonOutput := has _ rfl
  simp only [invocation, verbose, jsonOutput, value]

theorem action_congr {r r' : Reading} (texts : r.texts = r'.texts)
    (own : ∀ s : Switch, s.isShared = false → r.has s = r'.has s) (name : ActionName) :
    r.action name = r'.action name := by
  have json : r.has .json = r'.has .json := own _ rfl
  have noServer : r.has .noServer = r'.has .noServer := own _ rfl
  cases name <;> simp only [Reading.action, texts, json, noServer]

namespace Moves

variable (moves : L.Moves L')
include moves

theorem once (once : L.Once) : L'.Once where
  switches := (moves.shared.filterMap _).nodup_iff.1 once.switches
  values := ((moves.shared.filterMap _).map _).nodup_iff.1 once.values

theorem own_eq_own : L'.own = L.own := by
  rw [own_eq, own_eq, moves.own]

theorem texts_eq_texts : L'.behind.texts = L.behind.texts := by
  rw [texts_eq, texts_eq, moves.own, moves.trailing]

/-- What fits does so wherever the shared options stand. -/
theorem fits (fits : L.Fits environmentConfig) (once : L.Once) : L'.Fits environmentConfig where
  front := by
    have whole := fits_shared fits once fun s shared => Level.knows_top_iff.2 shared
    exact (whole.perm moves.shared).sublist (List.sublist_append_left ..)
  behind := by
    have whole := fits_shared fits once fun s shared => Level.knows_ofAction L.name shared
    have beside : (Level.ofAction L.name).Fits L'.sharedBehind [] :=
      (whole.perm moves.shared).sublist (List.sublist_append_right ..)
    have own : (Level.ofAction L.name).Fits L'.own L'.behind.texts := by
      rw [moves.own_eq_own, moves.texts_eq_texts]
      exact fits.behind.sublist List.filter_sublist
    rw [moves.name]
    refine (own.append beside (fun s there there' => ?_) ?_).perm L'.own_append_sharedBehind
    · obtain ⟨o, own, switch⟩ := List.mem_filterMap.1 there
      obtain ⟨o', shared, switch'⟩ := List.mem_filterMap.1 there'
      have same : o.isShared = o'.isShared :=
        (o.isShared_eq switch).trans (o'.isShared_eq switch').symm
      have unshared : o.isShared = false := by simpa using (List.mem_filter.1 own).2
      simp [(List.mem_filter.1 shared).2, unshared] at same
    · rw [valuesOf_own]
      exact nofun
  visible blank := by
    obtain ⟨outer, inner⟩ := fits.visible blank
    exact ((once.outer_or_inner .config).elim outer inner).elim

theorem invocation_eq (once : L.Once) (action : Action) :
    L'.invocation environmentConfig action = L.invocation environmentConfig action := by
  refine invocation_congr (fun s shared => ?_) (fun v => ?_) environmentConfig action
  · rw [has_eq _ shared, has_eq _ shared]
    exact decide_eq_decide.2 (moves.shared.filterMap _).mem_iff.symm
  · rw [value?_eq once, value?_eq (moves.once once)]
    exact (lookup_eq_of_perm (moves.shared.filterMap _) once.values v).symm

theorem action_eq : L'.inner.action L'.name = L.inner.action L.name := by
  rw [moves.name]
  refine action_congr moves.texts_eq_texts (fun s own => ?_) L.name
  have behind := L.mem_switchesOf_behind_iff s
  have behind' := L'.mem_switchesOf_behind_iff s
  simp only [own, Bool.false_eq_true, if_false] at behind behind'
  rw [moves.own_eq_own] at behind'
  exact decide_eq_decide.2 (behind'.trans behind.symm)

end Moves

/-- An option stands behind the name and not in front of it, and is repeated there, with a value of
the right form. -/
structure Repeats (L : Layout) (o : WrittenOption) : Prop where
  switch : ∀ s, o.switch? = some s →
    s.isShared = true ∧ L.outer.has s = false ∧ L.inner.has s = true
  value : ∀ v value, o.value? = some (v, value) → L.outer.value? v = none ∧
    L.inner.value? v ≠ none ∧ Reading.checkValue v value = .ok ()

namespace Repeats

variable {o : WrittenOption} {front : List WrittenOption} (repeats : L.Repeats o)
include repeats

theorem fits_front (fits : Level.top.Fits L.front []) : Level.top.Fits (L.front ++ [o]) [] := by
  refine Level.fits_concat_iff.2 ⟨fits, ?_, ?_, ?_⟩
  · rintro s rfl
    exact Level.knows_top_iff.2 (repeats.switch s rfl).1
  · intro s switch
    exact of_decide_eq_false (repeats.switch s switch).2.1
  · intro v value valued
    exact ⟨(repeats.value v value valued).1, (repeats.value v value valued).2.2⟩

variable (arranged : (L.front ++ [o]).Perm front)
include arranged

theorem outer_value?_eq (fits : Level.top.Fits L.front []) (v : Valued) :
    (Reading.of front []).value? v = (L.outer.value? v).or (o.value?.toList.lookup v) := by
  have keys : ((valuesOf (L.front ++ [o])).map Prod.fst).Nodup := (repeats.fits_front fits).values
  have same := lookup_eq_of_perm (arranged.filterMap WrittenOption.value?) keys v
  rw [← valuesOf, valuesOf_concat, List.lookup_append] at same
  exact same.symm

/-- An option has its value from behind the name wherever it is repeated. -/
theorem value?_eq (fits : Level.top.Fits L.front []) (v : Valued) :
    (⟨front, L.name, L.behind⟩ : Layout).value? v = L.value? v := by
  change (L.inner.value? v).or ((Reading.of front []).value? v) =
    (L.inner.value? v).or (L.outer.value? v)
  cases inner : L.inner.value? v with
  | some value => rfl
  | none =>
    have other : o.value?.toList.lookup v = none := by
      refine List.lookup_eq_none_iff.2 fun entry there => ?_
      have behind := (repeats.value entry.1 entry.2 (by simpa using there)).2.1
      simpa using fun same : v = entry.1 => behind (same ▸ inner)
    rw [repeats.outer_value?_eq arranged fits, other, Option.or_none]

/-- An option that is repeated stands behind the name anyway. -/
theorem has_eq (s : Switch) : (⟨front, L.name, L.behind⟩ : Layout).has s = L.has s := by
  change ((Reading.of front []).has s || L.inner.has s) = (L.outer.has s || L.inner.has s)
  cases inner : L.inner.has s with
  | true => rw [Bool.or_true, Bool.or_true]
  | false =>
    have other : o.switch? ≠ some s := fun switch => by
      simp [(repeats.switch s switch).2.2] at inner
    have same : s ∈ switchesOf front ↔ s ∈ switchesOf L.front := by
      have switches : (switchesOf (L.front ++ [o])).Perm (switchesOf front) := arranged.filterMap _
      rw [← switches.mem_iff, switchesOf_concat, List.mem_append]
      simp [other]
    exact congrArg (· || false) (decide_eq_decide.2 same)

/-- What fits does so where an option is repeated. -/
theorem fits (fits : L.Fits environmentConfig) :
    (⟨front, L.name, L.behind⟩ : Layout).Fits environmentConfig := by
  refine ⟨(repeats.fits_front fits.front).perm arranged, fits.behind, fun blank => ?_⟩
  obtain ⟨front, behind⟩ := fits.visible blank
  refine ⟨fun none => front ?_, behind⟩
  have both := (repeats.outer_value?_eq arranged fits.front .config).symm.trans none
  exact (Option.or_eq_none_iff.1 both).1

end Repeats

/-- **The option behind the name wins** over one that is repeated in front of it. -/
theorem ofWords_of_repeats {o : WrittenOption} (repeats : L.Repeats o) {front : List WrittenOption}
    (arranged : (L.front ++ [o]).Perm front)
    (understood : Invocation.ofWords environmentConfig L.words = .ok i) :
    Invocation.ofWords environmentConfig (⟨front, L.name, L.behind⟩ : Layout).words = .ok i := by
  obtain ⟨fits, action, acts, rfl⟩ := ofWords_iff.1 understood
  have same := invocation_congr (fun s _ => repeats.has_eq arranged s)
    (repeats.value?_eq arranged fits.front) environmentConfig action
  exact ofWords_iff.2 ⟨repeats.fits arranged fits, action, acts, same.symm⟩

/-- **Shared options mean the same anywhere.** Let the environment give a path of the configuration
file or none.

* Every command line that is understood is options, the name of an action, and arguments.
* If no shared option stands twice, the shared options may stand anywhere in front of the name or
  behind it, between the arguments of the action, though not behind a pair of dashes: the command
  line is understood all the same, says the same, and leads to the same settings.
* If an option that stands behind the name is repeated in front of it, the one behind wins: the
  command line is understood and says the same.
* In any command line that is understood a value behind the name counts before one in front of it,
  and a path of the configuration file on either side counts before that of the environment. A
  switch counts on either side. -/
theorem anywhere (environmentConfig : Option String) :
    (∀ words i, Invocation.ofWords environmentConfig words = .ok i →
      ∃ L : Layout, L.words = words) ∧
    ∀ (L : Layout) (i : Invocation), Invocation.ofWords environmentConfig L.words = .ok i →
      (L.Once → ∀ L', L.Moves L' →
        Invocation.ofWords environmentConfig L'.words = .ok i ∧
        ∀ t directory env, (Invocation.ofWords environmentConfig L'.words).map
          (Settings.resolve t directory env) = .ok (Settings.resolve t directory env i)) ∧
      (∀ o, L.Repeats o → ∀ front, (L.front ++ [o]).Perm front →
        Invocation.ofWords environmentConfig (⟨front, L.name, L.behind⟩ : Layout).words = .ok i) ∧
      (i.client = (L.inner.value? .client).or (L.outer.value? .client) ∧
        i.server = (L.inner.value? .server).or (L.outer.value? .server) ∧
        i.timeout = ((L.inner.value? .timeout).or (L.outer.value? .timeout)).bind
          Reading.seconds?) ∧
      i.config = ((L.inner.value? .config).or (L.outer.value? .config)).or environmentConfig ∧
      i.verbose = (L.outer.has .verbose || L.inner.has .verbose) ∧
      i.jsonOutput = (L.outer.has .jsonOutput || L.inner.has .jsonOutput) := by
  refine ⟨fun words i => exists_of_ofWords, fun L i understood => ?_⟩
  have repeated : ∀ o, L.Repeats o → ∀ front, (L.front ++ [o]).Perm front →
      Invocation.ofWords environmentConfig (⟨front, L.name, L.behind⟩ : Layout).words = .ok i :=
    fun o repeats front arranged => ofWords_of_repeats repeats arranged understood
  obtain ⟨fits, action, acts, rfl⟩ := ofWords_iff.1 understood
  refine ⟨fun once L' moves => ?_, repeated, ⟨rfl, rfl, rfl⟩, rfl, rfl, rfl⟩
  have same : Invocation.ofWords environmentConfig L'.words =
      .ok (L.invocation environmentConfig action) :=
    ofWords_iff.2 ⟨moves.fits fits once, action, moves.action_eq.trans acts,
      (moves.invocation_eq once action).symm⟩
  exact ⟨same, fun t directory env => by rw [same]; rfl⟩

/-- A match with a candidate, where two shared options stand in front of the name and one behind the
pattern, the same where they stand between the arguments of the action, and the same with another
client in front of the name, which does not count. -/
theorem anywhere_match :
    let text (word : String) (plain : isPlain word = true) : Argument := .text ⟨word, plain⟩
    let client : WrittenOption := .apart .client ⟨"c", rfl⟩
    let server : WrittenOption := .attached .server "s"
    let L : Layout := ⟨[.letter, server], .matching,
      ⟨[text "a" rfl, .option client, text "b" rfl, .option (.long .json)], none⟩⟩
    let L' : Layout := ⟨[client], .matching, ⟨[text "a" rfl, .option .letter, text "b" rfl,
      .option server, .option (.long .json)], none⟩⟩
    let other : WrittenOption := .attached .client "d"
    let front : List WrittenOption := [.letter, other, server]
    let i : Invocation := ⟨true, false, some "e", some "c", some "s", none,
      .matching "a" (some "b") true⟩
    L.words = ["-v", "--server=s", "match", "a", "--client", "c", "b", "--json"] ∧
      L'.words = ["--client", "c", "match", "a", "-v", "b", "--server=s", "--json"] ∧
      Invocation.ofWords (some "e") L.words = .ok i ∧
      Invocation.ofWords (some "e") L'.words = .ok i ∧
      Invocation.ofWords (some "e") (⟨front, L.name, L.behind⟩ : Layout).words = .ok i := by
  intro text client server L L' other front i
  have understood : Invocation.ofWords (some "e") L.words = .ok i :=
    L.ofWords_of_fits (by decide) rfl
  have once : L.Once := ⟨by decide, by decide⟩
  have moves : L.Moves L' := ⟨rfl, by decide, rfl, by decide⟩
  have repeats : L.Repeats other := by
    constructor
    · intro s switch
      cases switch
    · intro v value valued
      cases valued
      exact ⟨rfl, by decide, rfl⟩
  have arranged : (L.front ++ [other]).Perm front := by decide
  have placed := (anywhere (some "e")).2 L i understood
  exact ⟨by decide, by decide, understood, (placed.1 once L' moves).1,
    placed.2.1 other repeats front arranged⟩

end Layout

end InspectionHost.CommandLine
