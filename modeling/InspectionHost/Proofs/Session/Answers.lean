import InspectionHost.Proofs.Session.Automaton

/-!
# Sessions whose answers may fail

Whoever answers a session has a state that every answer may change, and may be aborted. Nothing else
aborts a session: what holds of whoever answers, of the states it goes through and of its aborts,
holds of the session. A loop that is not aborted ends without an error when its input is a text.

## Main definitions

* `Answers` : what whoever answers keeps, and how it is aborted.
* `Served` : what becomes of the input of a session.

## Main results

* `abort_of_play` : turns are aborted by whoever answers, as it was left.
* `served_serve`, `served_serveCandidates` : a session is aborted only by whoever answers, and reads
  all texts.
-/

namespace InspectionHost.Session

open InspectionHost.Text

variable {σ : Type} {ask : σ → Command → Except Abort Outcome × σ} {json : Bool}
  {I : σ → Prop} {P : Abort → σ → Prop}

/-- Whoever answers keeps an invariant, and is aborted in some ways only. -/
def Answers (ask : σ → Command → Except Abort Outcome × σ) (I : σ → Prop)
    (P : Abort → σ → Prop) : Prop :=
  ∀ s command, I s →
    I (ask s command).2 ∧ ∀ abort, (ask s command).1 = .error abort → P abort (ask s command).2

theorem abort_of_call (answers : Answers ask I P) (json : Bool) {p : Progress σ}
    (start : I p.state) (command : Command) :
    I (p.call ask json command).2.state ∧ ∀ abort, (p.call ask json command).1 = some abort →
      P abort (p.call ask json command).2.state := by
  obtain ⟨kept, aborted⟩ := answers p.state command start
  rcases hask : ask p.state command with ⟨abort | outcome, s⟩ <;> rw [hask] at kept aborted <;>
    simp only [Progress.call, hask]
  · exact ⟨kept, fun abort' same => aborted abort' (by rw [Option.some.inj same])⟩
  · exact ⟨kept, nofun⟩

/-- Turns are aborted only by whoever answers, and what it has left is left then. -/
theorem abort_of_play (answers : Answers ask I P) (json : Bool) (turns : List Turn)
    {p : Progress σ} (start : I p.state) : ∀ abort, (p.play ask json turns).1 = some abort →
      P abort (p.play ask json turns).2.state := by
  induction turns generalizing p with
  | nil => exact nofun
  | cons turn rest ih =>
    cases turn with
    | prompt words => exact ih start
    | say line => exact ih start
    | call command =>
      obtain ⟨kept, aborted⟩ := abort_of_call answers json start command
      rw [Progress.play]
      rcases hcall : p.call ask json command with ⟨_ | abort, q⟩ <;> rw [hcall] at kept aborted
      · exact ih kept
      · exact aborted

/-- What becomes of an input: the loop over it is aborted as answers are, or it comes to its end.
Only a line that is no text is an error then. -/
inductive Served (P : Abort → σ → Prop) (input : List UInt8) : Except Abort Exchange × σ → Prop
    where
  | aborted (abort : Abort) (s : σ) (cause : P abort s) : Served P input (.error abort, s)
  | finished (exchange : Exchange) (s : σ)
      (io : ∀ e, exchange.error = some e → ∃ cause, e = .io cause)
      (text : ∀ text, input = Utf8.encode text → exchange.error = none) :
      Served P input (.ok exchange, s)

theorem served_perform (answers : Answers ask I P) {r : Reading} {p : Progress σ}
    (start : I p.state) (lines : List (List UInt8)) {input : List UInt8}
    (reads : ∀ text, input = Utf8.encode text → r.fault = none) :
    Served P input (r.perform ask json p lines) := by
  have aborted := abort_of_play answers json r.turns start
  rw [Reading.perform]
  rcases hplay : p.play ask json r.turns with ⟨_ | abort, q⟩
  · refine .finished _ _ ?_ fun text htext => congrArg (Option.map RunError.io) (reads text htext)
    intro e he
    obtain ⟨cause, -, rfl⟩ := Option.map_eq_some_iff.1 he
    exact ⟨cause, rfl⟩
  · rw [hplay] at aborted
    exact .aborted abort _ (aborted abort rfl)

theorem map_decode?_cutBehind_encode (text : List Char) :
    (cutBehind 0x0A (Utf8.encode text)).map Utf8.decode? = (cutBehind '\n' text).map some := by
  rw [← splitLines_eq, splitLines_encode, List.map_map]
  exact List.map_congr_left fun line _ => Utf8.decode?_encode line

/-- The candidates of an input are served. -/
theorem served_serveCandidates (answers : Answers ask I P) (pattern : String) {s : σ}
    (start : I s) (input : List UInt8) :
    Served P input (serveCandidates ask json pattern s input) := by
  rw [serveCandidates_eq_perform]
  refine served_perform answers start _ ?_
  rintro text rfl
  rw [map_decode?_cutBehind_encode]
  exact fault_ofCandidates_map_some pattern _

/-- The requests of an input are served. -/
theorem served_serve (answers : Answers ask I P) {s : σ} (start : I s) (input : List UInt8) :
    Served P input (serve ask json s input) := by
  rw [serve_eq_perform]
  refine served_perform answers start _ ?_
  rintro text rfl
  rw [map_decode?_cutBehind_encode]
  exact Mode.fault_run_map_some .top _

end InspectionHost.Session
