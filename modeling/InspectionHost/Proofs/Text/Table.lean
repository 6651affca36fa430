import Mathlib.Data.List.Nodup

/-!
# Tables

A table lists keys with their values. What is found under a key stands in the table, and where no
key stands twice, what stands there is found. So such a table finds the same however it is arranged.
A line of a written table is a key and a value around the first equals sign.

## Main results

* `lookup_eq_some_iff_mem` : what a table without a key twice finds.
* `lookup_eq_of_perm` : how it is arranged does not matter.
* `takeWhile_append_of_notMem`, `dropWhile_append_of_notMem` : a key without an equals sign is what
  stands in front of the first.
-/

namespace InspectionHost

section Lookup

variable {α β : Type} [DecidableEq α] {table table' : List (α × β)} {a : α} {b : β}

theorem mem_of_lookup (found : table.lookup a = some b) : (a, b) ∈ table := by
  obtain ⟨before, behind, rfl, -⟩ := List.lookup_eq_some_iff.1 found
  simp

/-- A table without a key twice finds what stands in it. -/
theorem lookup_eq_some_iff_mem (keys : (table.map Prod.fst).Nodup) :
    table.lookup a = some b ↔ (a, b) ∈ table := by
  refine ⟨mem_of_lookup, fun there => ?_⟩
  obtain ⟨before, behind, rfl⟩ := List.append_of_mem there
  refine List.lookup_eq_some_iff.2 ⟨before, behind, rfl, fun entry front => ?_⟩
  rw [List.map_append, List.map_cons] at keys
  have apart : a ∉ before.map Prod.fst := fun again =>
    List.disjoint_of_nodup_append keys again List.mem_cons_self
  simpa using fun same : a = entry.1 => apart (same ▸ List.mem_map_of_mem front)

/-- A table without a key twice finds the same however it is arranged. -/
theorem lookup_eq_of_perm (arranged : table.Perm table') (keys : (table.map Prod.fst).Nodup)
    (a : α) : table.lookup a = table'.lookup a := by
  have keys' : (table'.map Prod.fst).Nodup := (arranged.map Prod.fst).nodup_iff.1 keys
  ext b
  rw [lookup_eq_some_iff_mem keys, lookup_eq_some_iff_mem keys', arranged.mem_iff]

theorem map_snd_find? (table : List (α × β)) (a : α) :
    (table.find? fun entry => entry.1 == a).map Prod.snd = table.lookup a := by
  induction table with
  | nil => rfl
  | cons entry rest ih =>
    rw [List.find?_cons, List.lookup_cons, BEq.comm (a := a)]
    cases entry.1 == a with
    | true => rfl
    | false => exact ih

end Lookup

section EqualsSign

variable {key : List Char}

/-- Characters that are no equals signs stand in front of the first. -/
theorem takeWhile_append_of_notMem (single : '=' ∉ key) (rest : List Char) :
    (key ++ rest).takeWhile (· != '=') = key ++ rest.takeWhile (· != '=') :=
  List.takeWhile_append_of_pos fun c there => by simpa using ne_of_mem_of_not_mem there single

theorem dropWhile_append_of_notMem (single : '=' ∉ key) (rest : List Char) :
    (key ++ rest).dropWhile (· != '=') = rest.dropWhile (· != '=') :=
  List.dropWhile_append_of_pos fun c there => by simpa using ne_of_mem_of_not_mem there single

end EqualsSign

end InspectionHost
