/-!
# Environments

An environment maps variables to values. A process gets it as a block of texts in which name
and value are separated by an equals sign, and reads it back from there.

## Main definitions

* `Environment` : the variables and their values.
* `Environment.set`, `Environment.unset`, `Environment.get?` : the operations on variables.
* `Environment.block` : the texts that a process gets.
* `Environment.readBlock` : the value of a variable in such texts.

## Main results

* `get?_set_self`, `get?_set_of_ne` : setting a variable changes this variable alone.
* `get?_unset_self` : a variable that is removed has no value.
* `get?_setAll` : of several new values of a variable the last counts.
-/

namespace InspectionHost

/-- The variables of an environment and their values, each variable once. -/
structure Environment where
  bindings : List (String × String)
  deriving DecidableEq, Repr

namespace Environment

/-- No variable is set. -/
def empty : Environment := ⟨[]⟩

/-- The value of a variable. -/
def get? (e : Environment) (name : String) : Option String :=
  e.bindings.lookup name

/-- The environment without a variable. -/
def unset (e : Environment) (name : String) : Environment :=
  ⟨e.bindings.filter fun binding => binding.1 != name⟩

/-- The environment with a value for a variable. -/
def set (e : Environment) (name value : String) : Environment :=
  ⟨(e.unset name).bindings ++ [(name, value)]⟩

/-- The environment with further values, each of which wins over the earlier ones. -/
def setAll (e : Environment) (bindings : List (String × String)) : Environment :=
  bindings.foldl (fun e (name, value) => e.set name value) e

/-- The bindings in the order of the names. -/
def sorted (e : Environment) : List (String × String) :=
  e.bindings.mergeSort fun a b => decide (a.1 ≤ b.1)

/-- The text of a binding. -/
def bindingText (binding : String × String) : String :=
  binding.1 ++ "=" ++ binding.2

/-- The texts that a process gets, in the order of the names. -/
def block (e : Environment) : List String :=
  e.sorted.map bindingText

/-- The name and the value of a text, which the first equals sign separates. -/
def splitBinding (text : String) : String × String :=
  let cs := text.toList
  (String.ofList (cs.takeWhile (· != '=')), String.ofList ((cs.dropWhile (· != '=')).drop 1))

/-- The value that texts give to a variable; the last text counts. -/
def readBlock (texts : List String) (name : String) : Option String :=
  ((texts.map splitBinding).reverse.find? fun binding => binding.1 == name).map Prod.snd

/-! ### Small facts -/

theorem lookup_filter_self (bindings : List (String × String)) (name : String) :
    (bindings.filter fun binding => binding.1 != name).lookup name = none := by
  induction bindings with
  | nil => rfl
  | cons binding rest ih =>
    obtain ⟨other, value⟩ := binding
    by_cases h : other = name
    · simpa [h] using ih
    · simp [h, List.lookup_cons, beq_eq_false_iff_ne.2 (Ne.symm h), ih]

theorem lookup_filter_of_ne (bindings : List (String × String)) {name other : String}
    (h : other ≠ name) :
    (bindings.filter fun binding => binding.1 != name).lookup other = bindings.lookup other := by
  induction bindings with
  | nil => rfl
  | cons binding rest ih =>
    obtain ⟨key, value⟩ := binding
    by_cases hk : key = name
    · have : other ≠ key := fun e => h (e.trans hk)
      simp [hk, List.lookup_cons, beq_eq_false_iff_ne.2 h, ih]
    · by_cases ho : other = key
      · simp [hk, ho]
      · simp [hk, List.lookup_cons, beq_eq_false_iff_ne.2 ho, ih]

@[simp] theorem get?_unset_self (e : Environment) (name : String) :
    (e.unset name).get? name = none :=
  lookup_filter_self ..

theorem get?_unset_of_ne (e : Environment) {name other : String} (h : other ≠ name) :
    (e.unset name).get? other = e.get? other :=
  lookup_filter_of_ne _ h

@[simp] theorem get?_set_self (e : Environment) (name value : String) :
    (e.set name value).get? name = some value := by
  have h : (e.unset name).bindings.lookup name = none := get?_unset_self e name
  simp [get?, set, List.lookup_append, h]

theorem get?_set_of_ne (e : Environment) {name other : String} (value : String)
    (h : other ≠ name) : (e.set name value).get? other = e.get? other := by
  have hu : (e.unset name).bindings.lookup other = e.bindings.lookup other :=
    get?_unset_of_ne e h
  simp [get?, set, List.lookup_append, hu, List.lookup_cons, beq_eq_false_iff_ne.2 h]

/-- After several new values a variable has the last one given to it, or else its old value. -/
theorem get?_setAll (e : Environment) (bindings : List (String × String)) (name : String) :
    (e.setAll bindings).get? name = (bindings.reverse.lookup name).or (e.get? name) := by
  induction bindings generalizing e with
  | nil => simp [setAll]
  | cons binding rest ih =>
    obtain ⟨key, value⟩ := binding
    have step : e.setAll ((key, value) :: rest) = (e.set key value).setAll rest := rfl
    rw [step, ih, List.reverse_cons, List.lookup_append]
    by_cases h : name = key
    · subst h
      cases rest.reverse.lookup name <;> simp
    · cases rest.reverse.lookup name <;>
        simp [List.lookup_cons, beq_eq_false_iff_ne.2 h, get?_set_of_ne e value h]

end Environment

end InspectionHost
