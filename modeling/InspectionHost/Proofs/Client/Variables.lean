import InspectionHost.Client.Client
import InspectionHost.Proofs.Machine.Environment
import InspectionHost.Proofs.Machine.Launch

/-!
# The variables of a client

A client is given variables one by one, and hands them to its launches in some order that it does
not choose. A launch sets them on the environment of the launcher. Since none of them stands twice,
their order matters neither to the texts that the program gets nor to the search for the program.

Clients are made, copied, and given variables independently of each other: what one of them has is
what was set on it, and on the client that it is a copy of before the copy was made.

## Main definitions

* `Client.withVariables` : the client behind several variables.
* `Client.Reorders` : two clients have the same variables in different orders.
* `ClientOp`, `Client.run` : operations on several clients.
* `ClientOp.callsOn` : the variables that operations set on one of the clients.

## Main results

* `Launch.start_of_perm` : the order of the variables does not matter to a launch.
* `Launch.environment_of_start` : the texts that a launched program gets.
* `Client.reorders_swap` : variables of different names can be set in any order.
* `Client.getElem?_run` : a client has what it had and what is set on it.
-/

namespace InspectionHost

/-! ### Launches with variables -/

namespace Environment

variable {e e' : Environment} {name name' : String}

/-- What stands in an environment with further values stood there, or is one of them. -/
theorem mem_bindings_setAll {bindings : List (String × String)} {binding : String × String}
    (there : binding ∈ (e.setAll bindings).bindings) :
    binding ∈ e.bindings ∨ binding ∈ bindings := by
  induction bindings generalizing e with
  | nil => exact .inl there
  | cons first rest ih =>
    rcases ih there with old | new
    · rcases List.mem_append.1 old with kept | set
      · exact .inl (List.mem_of_mem_filter kept)
      · exact .inr (List.mem_cons.2 (.inl (List.mem_singleton.1 set)))
    · exact .inr (List.mem_cons_of_mem _ new)

theorem perm_set (arranged : e.bindings.Perm e'.bindings) (name value : String) :
    (e.set name value).bindings.Perm (e'.set name value).bindings :=
  (arranged.filter _).append_right _

theorem perm_setAll (arranged : e.bindings.Perm e'.bindings) (bindings : List (String × String)) :
    (e.setAll bindings).bindings.Perm (e'.setAll bindings).bindings := by
  induction bindings generalizing e e' with
  | nil => exact arranged
  | cons binding rest ih => exact ih (perm_set arranged binding.1 binding.2)

/-- Variables of different names can be set in any order. -/
theorem perm_set_swap (different : name ≠ name') (e : Environment) (value value' : String) :
    ((e.set name value).set name' value').bindings.Perm
      ((e.set name' value').set name value).bindings := by
  have left : ((e.set name value).set name' value').bindings =
      (e.bindings.filter fun b => b.1 != name' && b.1 != name) ++
        [(name, value), (name', value')] := by
    simp [set, unset, List.filter_append, List.filter_filter, different]
  have right : ((e.set name' value').set name value).bindings =
      (e.bindings.filter fun b => b.1 != name' && b.1 != name) ++
        [(name', value'), (name, value)] := by
    simp [set, unset, List.filter_append, List.filter_filter, different.symm, Bool.and_comm]
  rw [left, right]
  exact (List.Perm.swap _ _ []).append_left _

end Environment

namespace Launch

variable {l : Launch} {t : FileTree} {directory : Place} {env env' : Environment} {image : Image}

theorem mem_texts {text : String} : text ∈ l.texts ↔
    (text = l.program ∨ text ∈ l.arguments ∨ text ∈ l.directory) ∨
      ∃ binding ∈ l.additions, text = binding.1 ∨ text = binding.2 := by
  simp [texts, or_assoc]

theorem holdsNul_iff : l.holdsNul = true ↔ ∃ text ∈ l.texts, '\x00' ∈ text.toList := by
  simp [holdsNul]

theorem paths_congr (same : env.get? "PATH" = env'.get? "PATH") (program : String) :
    paths env program = paths env' program := by
  simp only [paths, same]

/-- The order of the variables does not matter to a launch. -/
theorem start_of_perm {additions : List (String × String)}
    (arranged : l.additions.Perm additions) (distinct : (l.additions.map Prod.fst).Nodup)
    (plain : ∀ binding ∈ l.additions, '=' ∉ binding.1.toList) (proper : env.IsProper) :
    { l with additions }.start t directory env = l.start t directory env := by
  have texts : { l with additions }.texts.Perm l.texts :=
    (arranged.symm.flatMap_right _).append_left _
  have search : { l with additions }.hasSearchPath = l.hasSearchPath := by
    simp only [hasSearchPath, arranged.any_eq]
  have block := Environment.block_setAll_of_perm proper arranged distinct plain
  have path := Environment.get?_setAll_of_perm arranged distinct env "PATH"
  simp only [start, texts.any_eq, search, ← block, ← paths_congr path]

/-- The program that is launched gets the environment of the launcher with the variables. -/
theorem environment_of_start (started : l.start t directory env = .ok image) :
    image.environment = (env.setAll l.additions).block := by
  simp only [start, bind, Except.bind] at started
  split at started
  · contradiction
  split at started
  · split at started
    · contradiction
    split at started
    · contradiction
    · obtain rfl := Except.ok.inj started
      rfl
  · split at started
    · contradiction
    split at started
    · contradiction
    split at started
    · contradiction
    · obtain rfl := Except.ok.inj started
      rfl

end Launch

/-! ### Clients -/

namespace Client

variable {c d : Client} {calls : List (String × String)}

/-- The client with several variables, set one after the other. -/
def withVariables (c : Client) (calls : List (String × String)) : Client :=
  calls.foldl (fun c (name, value) => c.withVariable name value) c

/-- The second client has the variables of the first, in an order that may be another. -/
structure Reorders (c d : Client) : Prop where
  options : c.options = d.options
  additions : c.additions.bindings.Perm d.additions.bindings

@[simp] theorem options_withVariables (c : Client) (calls : List (String × String)) :
    (c.withVariables calls).options = c.options := by
  induction calls generalizing c with
  | nil => rfl
  | cons call rest ih => exact ih _

@[simp] theorem additions_withVariables (c : Client) (calls : List (String × String)) :
    (c.withVariables calls).additions = c.additions.setAll calls := by
  induction calls generalizing c with
  | nil => rfl
  | cons call rest ih => exact ih _

theorem withVariables_append (c : Client) (calls later : List (String × String)) :
    c.withVariables (calls ++ later) = (c.withVariables calls).withVariables later :=
  List.foldl_append

/-- Variables of different names can be set in any order. -/
theorem reorders_swap {name name' : String} (different : name ≠ name') (c : Client)
    (value value' : String) (before after : List (String × String)) :
    (c.withVariables (before ++ (name, value) :: (name', value') :: after)).Reorders
      (c.withVariables (before ++ (name', value') :: (name, value) :: after)) where
  options := by simp
  additions := by
    simp only [withVariables_append, additions_withVariables]
    exact Environment.perm_setAll (Environment.perm_set_swap different _ value value') after

end Client

/-! ### Several clients -/

/-- An operation on several clients, each of which is given by its place. -/
inductive ClientOp where
  | create (options : CallOptions)
  | copy (client : Nat)
  /-- Set a variable of a client, which takes the place of the client without it. -/
  | set (client : Nat) (name value : String)
  deriving DecidableEq, Repr

namespace ClientOp

/-- The variable that an operation sets on a client. -/
def callOn? (client : Nat) : ClientOp → Option (String × String)
  | .set target name value => if target = client then some (name, value) else none
  | _ => none

/-- The variables that operations set on a client, in their order. -/
def callsOn (client : Nat) (ops : List ClientOp) : List (String × String) :=
  ops.filterMap (callOn? client)

end ClientOp

namespace Client

variable {clients : List Client} {c : Client} {i : Nat}

/-- The clients behind an operation. A new client stands behind the others. -/
def operate (clients : List Client) : ClientOp → List Client
  | .create options => clients ++ [.ofOptions options]
  | .copy client => clients ++ clients[client]?.toList
  | .set client name value => clients.modify client (·.withVariable name value)

/-- The clients behind operations. -/
def run (clients : List Client) (ops : List ClientOp) : List Client :=
  ops.foldl operate clients

/-- An operation gives a client what it sets on it, and nothing else. -/
theorem getElem?_operate (there : clients[i]? = some c) (op : ClientOp) :
    (operate clients op)[i]? = some (c.withVariables (op.callOn? i).toList) := by
  have inside : i < clients.length := (List.getElem?_eq_some_iff.1 there).1
  cases op with
  | create options => exact (List.getElem?_append_left inside).trans there
  | copy client => exact (List.getElem?_append_left inside).trans there
  | set client name value =>
    rw [operate, List.getElem?_modify, there, ClientOp.callOn?]
    by_cases same : client = i
    · rw [if_pos same]
      simp [same, withVariables]
    · rw [if_neg same]
      simp [same, withVariables]

/-- A client has what it had and what is set on it, in the order in which it is set. -/
theorem getElem?_run (there : clients[i]? = some c) (ops : List ClientOp) :
    (run clients ops)[i]? = some (c.withVariables (ClientOp.callsOn i ops)) := by
  induction ops generalizing clients c with
  | nil => exact there
  | cons op rest ih =>
    refine (ih (getElem?_operate there op)).trans (congrArg some ?_)
    rw [← withVariables_append, ClientOp.callsOn, ClientOp.callsOn, List.filterMap_cons]
    cases op.callOn? i <;> rfl

theorem getElem?_copy (there : clients[i]? = some c) :
    (operate clients (.copy i))[clients.length]? = some c := by
  rw [operate, there, Option.toList_some, List.getElem?_concat_length]

end Client

end InspectionHost
