import InspectionHost.Machine.Environment
import InspectionHost.Proofs.Text.Table
import Mathlib.Data.String.Basic

/-!
# Environments as processes read them

A process gets its environment as texts, in the order of the names, and reads the values back from
there. It reads the values of the environment if no variable stands twice and no name has an equals
sign. Operations on variables keep environments so. Two such environments with the same values are
the same texts, in whatever order their variables were set.

## Main definitions

* `Environment.IsName`, `Environment.IsValue` : texts that a variable can be made of.
* `Environment.IsProper` : no variable stands twice, and no name has an equals sign.

## Main results

* `Environment.IsProper.setAll` : further values keep an environment proper.
* `Environment.readBlock_block` : a process reads the values of its environment.
* `Environment.block_setAll_of_perm` : the order in which variables are set does not matter.
-/

namespace InspectionHost.Environment

variable {e e' : Environment} {name : String} {bindings bindings' : List (String × String)}

/-- A text that a variable can be named by. -/
structure IsName (name : String) : Prop where
  nonempty : name ≠ ""
  plain : '=' ∉ name.toList
  notNul : '\x00' ∉ name.toList

/-- A text that can be the value of a variable. -/
def IsValue (value : String) : Prop := '\x00' ∉ value.toList

/-- No variable stands twice, and no name has an equals sign. -/
structure IsProper (e : Environment) : Prop where
  distinct : (e.bindings.map Prod.fst).Nodup
  plain : ∀ binding ∈ e.bindings, '=' ∉ binding.1.toList

/-! ### Operations on variables -/

theorem isProper_empty : empty.IsProper :=
  ⟨List.nodup_nil, nofun⟩

theorem IsProper.unset (proper : e.IsProper) (name : String) : (e.unset name).IsProper where
  distinct := proper.distinct.sublist (List.filter_sublist.map Prod.fst)
  plain _ there := proper.plain _ (List.mem_of_mem_filter there)

theorem IsProper.set (proper : e.IsProper) (plain : '=' ∉ name.toList) (value : String) :
    (e.set name value).IsProper where
  distinct := by
    have free : name ∉ (e.unset name).bindings.map Prod.fst := by simp [Environment.unset]
    rw [Environment.set, List.map_append, List.nodup_append]
    refine ⟨(proper.unset name).distinct, List.nodup_singleton _, ?_⟩
    rintro key there _ new rfl
    obtain rfl : key = name := by simpa using new
    exact free there
  plain binding there := by
    rcases List.mem_append.1 there with old | new
    · exact (proper.unset name).plain _ old
    · obtain rfl := List.mem_singleton.1 new
      exact plain

theorem IsProper.setAll (proper : e.IsProper)
    (plain : ∀ binding ∈ bindings, '=' ∉ binding.1.toList) : (e.setAll bindings).IsProper := by
  induction bindings generalizing e with
  | nil => exact proper
  | cons binding rest ih =>
    obtain ⟨first, others⟩ := List.forall_mem_cons.1 plain
    exact ih (proper.set first binding.2) others

/-! ### What a process reads -/

theorem sorted_perm (e : Environment) : e.sorted.Perm e.bindings :=
  List.mergeSort_perm ..

theorem pairwise_sorted (e : Environment) : e.sorted.Pairwise fun a b => a.1 ≤ b.1 := by
  have names : e.sorted.Pairwise fun a b => decide (a.1 ≤ b.1) = true := by
    refine List.pairwise_mergeSort (fun a b c first second => ?_) (fun a b => ?_) e.bindings
    · exact decide_eq_true (le_trans (of_decide_eq_true first) (of_decide_eq_true second))
    · simpa using le_total a.1 b.1
  exact names.imp of_decide_eq_true

theorem splitBinding_bindingText {binding : String × String} (plain : '=' ∉ binding.1.toList) :
    splitBinding (bindingText binding) = binding := by
  simp [splitBinding, bindingText, takeWhile_append_of_notMem plain,
    dropWhile_append_of_notMem plain]

/-- A process reads the values of its environment. -/
theorem readBlock_block (proper : e.IsProper) (name : String) :
    readBlock e.block name = e.get? name := by
  have divided : e.block.map splitBinding = e.sorted := by
    rw [block, List.map_map]
    refine (List.map_congr_left fun binding there => ?_).trans (List.map_id _)
    exact splitBinding_bindingText (proper.plain binding (e.sorted_perm.mem_iff.1 there))
  have arranged : e.sorted.reverse.Perm e.bindings := (List.reverse_perm _).trans e.sorted_perm
  rw [readBlock, divided, map_snd_find?]
  exact (lookup_eq_of_perm arranged.symm proper.distinct name).symm

/-! ### The order of variables -/

/-- Variables that stand in another order are the same texts. -/
theorem block_eq_of_perm (arranged : e.bindings.Perm e'.bindings) (proper : e.IsProper) :
    e.block = e'.block := by
  have same : e.sorted.Perm e'.sorted := (e.sorted_perm.trans arranged).trans e'.sorted_perm.symm
  rw [block, block, List.Perm.eq_of_pairwise ?_ e.pairwise_sorted e'.pairwise_sorted same]
  -- Two entries with the same name are one entry of the first environment.
  intro a b ina inb below above
  have ina : a ∈ e.bindings := e.sorted_perm.mem_iff.1 ina
  have inb : b ∈ e.bindings := (e.sorted_perm.mem_iff.1 (same.mem_iff.2 inb))
  exact List.inj_on_of_nodup_map proper.distinct ina inb (le_antisymm below above)

theorem block_of_ordered (arranged : e.bindings.Perm bindings) (proper : e.IsProper)
    (ordered : bindings.Pairwise fun a b => a.1 ≤ b.1) :
    e.block = bindings.map bindingText := by
  have kept : sorted ⟨bindings⟩ = bindings :=
    List.mergeSort_of_pairwise (ordered.imp decide_eq_true)
  have same : e.block = block ⟨bindings⟩ := block_eq_of_perm arranged proper
  rw [same, block, kept]

theorem IsProper.perm_of_get? (proper : e.IsProper) (proper' : e'.IsProper)
    (same : ∀ name, e.get? name = e'.get? name) : e.bindings.Perm e'.bindings := by
  refine (List.perm_ext_iff_of_nodup proper.distinct.of_map proper'.distinct.of_map).2 ?_
  rintro ⟨name, value⟩
  rw [← lookup_eq_some_iff_mem proper.distinct, ← lookup_eq_some_iff_mem proper'.distinct]
  exact iff_of_eq (congrArg (· = some value) (same name))

theorem get?_setAll_of_perm (arranged : bindings.Perm bindings')
    (distinct : (bindings.map Prod.fst).Nodup) (e : Environment) (name : String) :
    (e.setAll bindings).get? name = (e.setAll bindings').get? name := by
  have reversed : bindings.reverse.Perm bindings'.reverse :=
    ((List.reverse_perm _).trans arranged).trans (List.reverse_perm _).symm
  have distinct' : (bindings.reverse.map Prod.fst).Nodup := by
    rwa [List.map_reverse, List.nodup_reverse]
  rw [get?_setAll, get?_setAll, lookup_eq_of_perm reversed distinct']

/-- Variables that are set in another order are the same texts. -/
theorem block_setAll_of_perm (proper : e.IsProper) (arranged : bindings.Perm bindings')
    (distinct : (bindings.map Prod.fst).Nodup)
    (plain : ∀ binding ∈ bindings, '=' ∉ binding.1.toList) :
    (e.setAll bindings).block = (e.setAll bindings').block := by
  have plain' : ∀ binding ∈ bindings', '=' ∉ binding.1.toList := fun binding there =>
    plain binding (arranged.mem_iff.2 there)
  refine block_eq_of_perm ?_ (proper.setAll plain)
  exact (proper.setAll plain).perm_of_get? (proper.setAll plain')
    (get?_setAll_of_perm arranged distinct e)

end InspectionHost.Environment
