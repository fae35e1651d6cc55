/-
  Foundation/Footprint.lean --- which positions of an input the parts of a record
  are read from.

  A record is decoded from a list, and a `Layout` says for every named part of it
  the windows of positions it is read from.  A layout is `Separate` when windows
  of different parts have no position in common; parts that share positions on
  purpose are put into one group.  The use of a layout is a law about two runs:
  when one position of the input changes and every part whose windows do not
  cover it stays, then all the parts that change are of one group.
-/
import Mathlib.Data.List.Pairwise

set_option autoImplicit false

namespace TruenasPydmi.Foundation

/-! ## Windows -/

/-- The positions from `start` on, up to `stop` when there is one. -/
structure Window where
  start : Nat
  stop : Option Nat
  deriving DecidableEq, Repr

/-- The `width` positions from `start` on. -/
def span (start width : Nat) : Window := ⟨start, some (start + width)⟩

/-- The positions from `start` to the end of the input. -/
def rest (start : Nat) : Window := ⟨start, none⟩

/-- The position lies in the window. -/
def Window.Covers (w : Window) (i : Nat) : Prop := w.start ≤ i ∧ ∀ s ∈ w.stop, i < s

/-- One window ends before the other starts. -/
def Window.Apart (v w : Window) : Prop :=
  (∃ s ∈ v.stop, s ≤ w.start) ∨ ∃ s ∈ w.stop, s ≤ v.start

instance (v w : Window) : Decidable (v.Apart w) :=
  inferInstanceAs (Decidable (_ ∨ _))

@[simp] theorem covers_span {start width i : Nat} :
    (span start width).Covers i ↔ start ≤ i ∧ i < start + width := by
  simp [Window.Covers, span]

@[simp] theorem covers_rest {start i : Nat} : (rest start).Covers i ↔ start ≤ i := by
  simp [Window.Covers, rest]

theorem Window.Apart.not_covers {v w : Window} {i : Nat} (h : v.Apart w) (hv : v.Covers i) :
    ¬ w.Covers i := by
  intro hw
  rcases h with ⟨s, hs, hle⟩ | ⟨s, hs, hle⟩
  · exact absurd (hv.2 s hs) (Nat.not_lt.mpr (Nat.le_trans hle hw.1))
  · exact absurd (hw.2 s hs) (Nat.not_lt.mpr (Nat.le_trans hle hv.1))

/-- One of the windows covers the position. -/
def Touches (ws : List Window) (i : Nat) : Prop := ∃ w ∈ ws, w.Covers i

@[simp] theorem touches_nil {i : Nat} : ¬ Touches [] i := by
  simp [Touches]

@[simp] theorem touches_cons {w : Window} {ws : List Window} {i : Nat} :
    Touches (w :: ws) i ↔ w.Covers i ∨ Touches ws i := by
  simp [Touches]

/-- Every window of the one list is apart from every window of the other. -/
def AllApart (vs ws : List Window) : Prop := ∀ v ∈ vs, ∀ w ∈ ws, v.Apart w

instance (vs ws : List Window) : Decidable (AllApart vs ws) :=
  inferInstanceAs (Decidable (∀ v ∈ vs, ∀ w ∈ ws, v.Apart w))

theorem AllApart.not_touches {vs ws : List Window} {i : Nat} (h : AllApart vs ws)
    (hv : Touches vs i) : ¬ Touches ws i := by
  obtain ⟨v, hmem, hcovers⟩ := hv
  rintro ⟨w, hw, hw'⟩
  exact (h v hmem w hw).not_covers hcovers hw'

/-! ## Layouts -/

/-- The named parts of a record, and the windows each is read from. -/
abbrev Layout (ν : Type*) : Type _ := List (ν × List Window)

section

variable {ν γ β : Type*}

/-- Parts of different groups are read from different positions. -/
def Layout.Separate (group : ν → γ) (l : Layout ν) : Prop :=
  l.Pairwise fun p q => AllApart p.2 q.2 ∨ group p.1 = group q.1

instance [DecidableEq γ] (group : ν → γ) (l : Layout ν) : Decidable (l.Separate group) :=
  inferInstanceAs (Decidable (l.Pairwise _))

/-- Two parts that are read from one position are of one group. -/
theorem Layout.Separate.group_eq {group : ν → γ} {l : Layout ν} (h : l.Separate group)
    {p q : ν × List Window} (hp : p ∈ l) (hq : q ∈ l) {i : Nat} (hpi : Touches p.2 i)
    (hqi : Touches q.2 i) : group p.1 = group q.1 := by
  have hsymm : Std.Symm fun p q : ν × List Window =>
      Touches p.2 i → Touches q.2 i → group p.1 = group q.1 :=
    ⟨fun _ _ hpq hq hp => (hpq hp hq).symm⟩
  have hpairs : l.Pairwise fun p q =>
      Touches p.2 i → Touches q.2 i → group p.1 = group q.1 := by
    apply h.imp
    intro p q hpq hp hq
    cases hpq with
    | inl hapart => exact absurd hq (hapart.not_touches hp)
    | inr hgroup => exact hgroup
  exact hpairs.forall_of_forall (fun _ _ _ _ => rfl) hp hq hpi hqi

/-- Two records with the parts of the layout, where every part that is not read
from position `i` has one value in both. -/
inductive Spares (i : Nat) : Layout ν → List (ν × β) → List (ν × β) → Prop
  | nil : Spares i [] [] []
  | cons {n : ν} {ws : List Window} {a b : β} {l : Layout ν} {fs fs' : List (ν × β)} :
      (¬ Touches ws i → a = b) → Spares i l fs fs' →
      Spares i ((n, ws) :: l) ((n, a) :: fs) ((n, b) :: fs')

@[simp] theorem spares_nil {i : Nat} : Spares (β := β) i ([] : Layout ν) [] [] := .nil

@[simp] theorem spares_cons {i : Nat} {n : ν} {ws : List Window} {a b : β} {l : Layout ν}
    {fs fs' : List (ν × β)} :
    Spares i ((n, ws) :: l) ((n, a) :: fs) ((n, b) :: fs') ↔
      (¬ Touches ws i → a = b) ∧ Spares i l fs fs' := by
  constructor
  · intro h
    cases h with
    | cons hab hrest => exact ⟨hab, hrest⟩
  · rintro ⟨hab, hrest⟩
    exact .cons hab hrest

/-- The names of the parts whose values are different in two records. -/
def changed [DecidableEq β] : List (ν × β) → List (ν × β) → List ν
  | (n, a) :: fs, (_, b) :: fs' => if a = b then changed fs fs' else n :: changed fs fs'
  | _, _ => []

variable [DecidableEq β]

/-- A part whose values are different is among the changed ones. -/
theorem mem_changed_of_getElem? {fs fs' : List (ν × β)} {k : Nat} {n m : ν} {a b : β}
    (h : fs[k]? = some (n, a)) (h' : fs'[k]? = some (m, b)) (hne : a ≠ b) :
    n ∈ changed fs fs' := by
  induction fs generalizing fs' k with
  | nil => simp at h
  | cons f fs ih =>
      cases fs' with
      | nil => simp at h'
      | cons f' fs' =>
          cases k with
          | zero =>
              obtain rfl : f = (n, a) := by simpa using h
              obtain rfl : f' = (m, b) := by simpa using h'
              simp [changed, hne]
          | succ k =>
              have hmem := ih (by simpa using h) (by simpa using h')
              rw [changed]
              split
              · exact hmem
              · exact List.mem_cons_of_mem _ hmem

/-- A part that changed is read from the position. -/
theorem Spares.touches_of_mem_changed {i : Nat} {l : Layout ν} {fs fs' : List (ν × β)}
    (h : Spares i l fs fs') {n : ν} (hn : n ∈ changed fs fs') :
    ∃ ws, (n, ws) ∈ l ∧ Touches ws i := by
  induction h with
  | nil => simp [changed] at hn
  | @cons m ws a b l fs fs' hab hrest ih =>
      rw [changed] at hn
      have hbelow : n ∈ changed fs fs' → ∃ vs, (n, vs) ∈ (m, ws) :: l ∧ Touches vs i := by
        intro hmem
        obtain ⟨vs, hvs, htouch⟩ := ih hmem
        exact ⟨vs, List.mem_cons_of_mem _ hvs, htouch⟩
      split at hn
      · exact hbelow hn
      · rename_i hne
        rcases List.mem_cons.mp hn with rfl | hn
        · exact ⟨ws, List.mem_cons_self, not_imp_comm.mp hab hne⟩
        · exact hbelow hn

/-- All the parts that changed are of one group. -/
theorem Spares.group_eq_of_mem_changed {group : ν → γ} {i : Nat} {l : Layout ν}
    {fs fs' : List (ν × β)} (h : Spares i l fs fs') (hsep : l.Separate group) {m n : ν}
    (hm : m ∈ changed fs fs') (hn : n ∈ changed fs fs') : group m = group n := by
  obtain ⟨vs, hvs, hvi⟩ := h.touches_of_mem_changed hm
  obtain ⟨ws, hws, hwi⟩ := h.touches_of_mem_changed hn
  exact hsep.group_eq hvs hws hvi hwi

end

end TruenasPydmi.Foundation
