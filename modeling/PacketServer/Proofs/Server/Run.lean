import Mathlib.Data.List.Induction
import PacketServer.Proofs.Server.Move

/-!
# Runs from any state

A run goes through labels in any order. What it leads to is known label by
label: a call changes with its own steps only, and not at all once it has
ended.

## Main results

* `System.run_induction` — what every step keeps, every run keeps.
* `step_keeps`, `step_ended` — calls that do not change in a step.
-/

namespace PacketServer.Server

variable {config : Config} {world : World} {s s₁ s' : System} {t j : Nat} {c c' d : Call}
  {label : Label} {labels labels' : List Label}

/-- Where the labels of a run lead. -/
def System.run (config : Config) (s : System) (labels : List Label) : Option System :=
  labels.foldlM (System.step config) s

theorem System.run_cons :
    s.run config (label :: labels) = (s.step config label).bind (·.run config labels) := rfl

theorem System.run_append :
    s.run config (labels ++ labels') = (s.run config labels).bind (·.run config labels') := by
  simp [System.run, List.foldlM_append]

/-- What every step keeps, every run keeps, whatever makes the steps. -/
theorem foldlM_induction {σ α : Type} {step : σ → α → Option σ} {s s' : σ} {labels : List α}
    {motive : List α → σ → Prop} (start : motive [] s)
    (next : ∀ labels label s₁ s₂, motive labels s₁ → step s₁ label = some s₂ →
      motive (labels ++ [label]) s₂)
    (ran : labels.foldlM step s = some s') : motive labels s' := by
  induction labels using List.reverseRecOn generalizing s' with
  | nil =>
    cases ran
    exact start
  | append_singleton labels label ih =>
    rw [List.foldlM_append] at ran
    obtain ⟨s₁, before, made⟩ := Option.bind_eq_some_iff.mp ran
    exact next labels label s₁ s' (ih before) (by simpa using made)

/-- **What every step keeps, every run keeps.** -/
theorem System.run_induction {motive : List Label → System → Prop} (start : motive [] s)
    (next : ∀ labels label s₁ s₂, motive labels s₁ → s₁.step config label = some s₂ →
      motive (labels ++ [label]) s₂)
    (ran : s.run config labels = some s') : motive labels s' :=
  foldlM_induction start next ran

theorem Reachable.run (reachable : Reachable config s) (ran : s.run config labels = some s') :
    Reachable config s' :=
  System.run_induction (motive := fun _ s' => Reachable config s') reachable
    (fun _ label _ _ before made => .step label before made) ran

/-! ## Calls -/

/-- Whether a step is one of the call of a number. -/
def Label.isOf (t : Nat) : Label → Bool
  | .advance j _ => j == t
  | _ => false

theorem System.place_self (present : s.calls[t]? = some c) (kept : s₁.calls = s.calls) :
    (s₁.place t c').calls[t]? = some c' := by
  obtain ⟨hlt, -⟩ := List.getElem?_eq_some_iff.mp present
  simp [System.place, kept, hlt]

theorem System.enter_old {kind : Kind} {listened : Bool} (present : s.calls[t]? = some c) :
    (s.enter kind listened).calls[t]? = some c := by
  obtain ⟨hlt, -⟩ := List.getElem?_eq_some_iff.mp present
  simpa [System.enter, List.getElem?_append_left hlt] using present

/-- A step of others keeps a call as it is. -/
theorem step_keeps (made : s.step config label = some s') (present : s.calls[t]? = some c)
    (others : label.isOf t = false) : s'.calls[t]? = some c := by
  cases step_cases made with
  | called kind listened => exact System.enter_old present
  | @moved j world d d' s₁ there move =>
    have apart : j ≠ t := by simpa [Label.isOf] using others
    simpa [System.place, move.calls, List.getElem?_set, apart] using present
  | looped there goes => exact present
  | tasked there goes => exact present

/-- A call that has ended makes no step. -/
theorem Move.unended (move : Move config world t s c s₁ c') : c.ending = none := by
  cases move <;> simp [Call.ending, *]

/-- **A call that has ended does not change.** -/
theorem step_ended (made : s.step config label = some s') (present : s.calls[t]? = some c)
    (ended : c.ending.isSome = true) : s'.calls[t]? = some c := by
  cases others : label.isOf t with
  | false => exact step_keeps made present others
  | true =>
    cases step_cases made with
    | @moved j world d d' s₁ there move =>
      obtain rfl : j = t := by simpa [Label.isOf] using others
      obtain rfl : c = d := Option.some.inj (present.symm.trans there)
      simp [move.unended] at ended
    | _ => simp [Label.isOf] at others

/-- A call stays what it is about, and its listener stays. -/
theorem Move.kept (move : Move config world t s c s₁ c') :
    c'.kind = c.kind ∧ c'.listened = c.listened := by
  cases move with
  | @stopLost after | @confirmed after => cases after <;> exact ⟨rfl, rfl⟩
  | _ => exact ⟨rfl, rfl⟩

/-- A call keeps the edges that it won. -/
theorem Move.keeps_won {edge : Transition} (move : Move config world t s c s₁ c')
    (won : edge ∈ c.won) : edge ∈ c'.won := by
  rcases move.wins with ⟨same, -⟩ | ⟨edge', more, -, -⟩
  · rw [same]
    exact won
  · rw [more]
    exact List.mem_append_left _ won

end PacketServer.Server
