/-
  Foundation/Loop.lean --- `while` loops that may raise.

  A loop is a value here: a body that maps a state to the next state, to the
  result the loop is left with, or to a raised exception, together with a
  measure that every further pass brings down.  The measure is a field, so a
  loop that could run forever cannot be built, and `Loop.run` is total.

  `Loop.run` recurses on the measure as fuel.  The fuel never shows: `run_of_next`
  and its companions unfold one pass, and `run_rule` is the while rule that the
  proofs about a particular loop apply.
-/
import Mathlib.Tactic.TypeStar

set_option autoImplicit false

namespace TruenasPydmi.Foundation

/-- What a pass of a loop body does when it raises nothing. -/
inductive Turn (σ β : Type*) where
  /-- go round again from this state -/
  | next (state : σ)
  /-- leave the loop with this result -/
  | done (result : β)

/-- A loop over states `σ` that raises `ε` or is left with a `β`. -/
structure Loop (ε σ β : Type*) where
  /-- One pass. -/
  body : σ → Except ε (Turn σ β)
  /-- How much is left to do. -/
  measure : σ → Nat
  /-- Going round again leaves less to do. -/
  decreases : ∀ {s s' : σ}, body s = .ok (.next s') → measure s' < measure s

namespace Loop

variable {ε σ β : Type*} (L : Loop ε σ β)

/-- Run with more fuel than the measure of the state. -/
def runFuel : (fuel : Nat) → (s : σ) → L.measure s < fuel → Except ε β
  | 0, s, h => absurd h (Nat.not_lt_zero (L.measure s))
  | fuel + 1, s, h =>
      match hbody : L.body s with
      | .error e => .error e
      | .ok (.done b) => .ok b
      | .ok (.next s') =>
          runFuel fuel s' (Nat.lt_of_lt_of_le (L.decreases hbody) (Nat.le_of_lt_succ h))

/-- Run the loop from a state. -/
def run (s : σ) : Except ε β :=
  L.runFuel (L.measure s + 1) s (Nat.lt_succ_self _)

/-- The fuel does not matter as long as there is enough of it. -/
theorem runFuel_irrel : ∀ (n m : Nat) (s : σ) (hn : L.measure s < n) (hm : L.measure s < m),
    L.runFuel n s hn = L.runFuel m s hm := by
  intro n
  induction n with
  | zero => intro m s hn; exact absurd hn (Nat.not_lt_zero _)
  | succ n ih =>
      intro m s hn hm
      cases m with
      | zero => exact absurd hm (Nat.not_lt_zero _)
      | succ m =>
          rw [runFuel, runFuel]
          split
          · rfl
          · rfl
          · rename_i s' hbody
            exact ih m s' _ _

variable {L}

theorem run_of_error {s : σ} {e : ε} (h : L.body s = .error e) :
    L.run s = .error e := by
  rw [run, runFuel]
  split <;> simp_all

theorem run_of_done {s : σ} {b : β} (h : L.body s = .ok (.done b)) :
    L.run s = .ok b := by
  rw [run, runFuel]
  split <;> simp_all

theorem run_of_next {s s' : σ} (h : L.body s = .ok (.next s')) :
    L.run s = L.run s' := by
  rw [run, runFuel]
  split
  · simp_all
  · simp_all
  · rename_i s'' hbody
    have hs : s'' = s' := by simpa [h] using hbody.symm
    subst hs
    exact L.runFuel_irrel _ _ s'' _ _

/-- What a pass from `s` has to do for `P` to relate states and outcomes: it ends the
loop with an outcome related to `s`, or leaves a state whose outcomes are all
related to `s` as well. -/
def PassKeeps (P : σ → Except ε β → Prop) (s : σ) : Except ε (Turn σ β) → Prop
  | .error e => P s (.error e)
  | .ok (.done b) => P s (.ok b)
  | .ok (.next s') => ∀ r, P s' r → P s r

section

variable {P : σ → Except ε β → Prop} {s : σ}

@[simp] theorem passKeeps_error {e : ε} : PassKeeps P s (.error e) ↔ P s (.error e) := Iff.rfl

@[simp] theorem passKeeps_done {b : β} : PassKeeps P s (.ok (.done b)) ↔ P s (.ok b) := Iff.rfl

@[simp] theorem passKeeps_next {s' : σ} :
    PassKeeps P s (.ok (.next s')) ↔ ∀ r, P s' r → P s r := Iff.rfl

end

/-- The while rule.  What every pass keeps relates every state to the outcome of
the run from it. -/
theorem run_rule {P : σ → Except ε β → Prop} (pass : ∀ s, PassKeeps P s (L.body s)) (s : σ) :
    P s (L.run s) := by
  generalize hn : L.measure s = n
  induction n using Nat.strongRecOn generalizing s with
  | ind n ih =>
      subst hn
      have hpass := pass s
      cases hbody : L.body s with
      | error e =>
          rw [hbody, passKeeps_error] at hpass
          rwa [run_of_error hbody]
      | ok turn =>
          cases turn with
          | done b =>
              rw [hbody, passKeeps_done] at hpass
              rwa [run_of_done hbody]
          | next s' =>
              rw [hbody, passKeeps_next] at hpass
              rw [run_of_next hbody]
              exact hpass _ (ih _ (L.decreases hbody) s' rfl)

/-- The while rule under an invariant. -/
theorem run_rule_of {I : σ → Prop} {P : σ → Except ε β → Prop}
    (pass : ∀ s, I s → PassKeeps (fun s r => I s → P s r) s (L.body s)) {s : σ} (hs : I s) :
    P s (L.run s) := by
  refine run_rule (P := fun s r => I s → P s r) (fun s => ?_) s hs
  by_cases hI : I s
  · exact pass s hI
  · rcases L.body s with e | s' | b
    · exact fun h => absurd h hI
    · exact fun _ _ h => absurd h hI
    · exact fun h => absurd h hI

/-! ### Two loops in step -/

section

variable {σ' β' : Type*} {L' : Loop ε σ' β'}

/-- Two passes do the same, up to a relation of the states and one of the results. -/
inductive PassRel (R : σ → σ' → Prop) (Q : β → β' → Prop) :
    Except ε (Turn σ β) → Except ε (Turn σ' β') → Prop
  | error (e : ε) : PassRel R Q (.error e) (.error e)
  | done {b : β} {b' : β'} : Q b b' → PassRel R Q (.ok (.done b)) (.ok (.done b'))
  | next {s : σ} {s' : σ'} : R s s' → PassRel R Q (.ok (.next s)) (.ok (.next s'))

/-- Two runs end the same, up to a relation of the results. -/
inductive OutcomeRel (Q : β → β' → Prop) : Except ε β → Except ε β' → Prop
  | error (e : ε) : OutcomeRel Q (.error e) (.error e)
  | ok {b : β} {b' : β'} : Q b b' → OutcomeRel Q (.ok b) (.ok b')

theorem OutcomeRel.exists_ok {Q : β → β' → Prop} {b : β} {r : Except ε β'}
    (h : OutcomeRel Q (.ok b) r) : ∃ b', r = .ok b' ∧ Q b b' := by
  cases h with
  | ok hQ => exact ⟨_, rfl, hQ⟩

/-- Loops that go in step from related states end in step. -/
theorem run_rel {R : σ → σ' → Prop} {Q : β → β' → Prop}
    (pass : ∀ s s', R s s' → PassRel R Q (L.body s) (L'.body s')) {s : σ} {s' : σ'}
    (h : R s s') : OutcomeRel Q (L.run s) (L'.run s') := by
  refine run_rule (P := fun s r => ∀ s', R s s' → OutcomeRel Q r (L'.run s')) (fun s => ?_) s s' h
  have hpass := pass s
  generalize L.body s = turn at hpass
  rcases turn with e | t | b
  · intro s' hR
    have hstep := hpass s' hR
    generalize hbody : L'.body s' = turn' at hstep
    cases hstep with
    | error => exact run_of_error hbody ▸ .error e
  · intro r hr s' hR
    have hstep := hpass s' hR
    generalize hbody : L'.body s' = turn' at hstep
    cases hstep with
    | next hR' => exact run_of_next hbody ▸ hr _ hR'
  · intro s' hR
    have hstep := hpass s' hR
    generalize hbody : L'.body s' = turn' at hstep
    cases hstep with
    | done hQ => exact run_of_done hbody ▸ .ok hQ

end

end Loop

end TruenasPydmi.Foundation
