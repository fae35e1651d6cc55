/-
  Foundation/Tiling.lean --- streams of records laid end to end.

  `At o a o'` says that the record `a` occupies the positions from `o` up to
  `o'` of some fixed input.  `Tiling At o as o'` says that the records `as` fill
  the positions from `o` up to `o'`, each starting where the one before ended.
  It is the declarative counterpart of a loop that decodes one record after
  another.

  Nothing is assumed of `At` but that records are not empty, and that only where a
  lemma says so.
-/
import Mathlib.Data.List.Basic

set_option autoImplicit false

namespace TruenasPydmi.Foundation

variable {α β : Type*}

/-- The records `as` fill the positions from the first index to the second. -/
inductive Tiling (At : Nat → α → Nat → Prop) : Nat → List α → Nat → Prop where
  | nil (o : Nat) : Tiling At o [] o
  | cons {o m o' : Nat} {a : α} {as : List α} :
      At o a m → Tiling At m as o' → Tiling At o (a :: as) o'

namespace Tiling

variable {At : Nat → α → Nat → Prop} {o o' : Nat} {a : α} {as : List α}

@[simp] theorem nil_iff : Tiling At o [] o' ↔ o = o' :=
  ⟨fun h => by cases h; rfl, fun h => h ▸ .nil o⟩

theorem cons_iff : Tiling At o (a :: as) o' ↔ ∃ m, At o a m ∧ Tiling At m as o' :=
  ⟨fun h => by cases h with | cons ha has => exact ⟨_, ha, has⟩,
    fun ⟨_, ha, has⟩ => .cons ha has⟩

theorem singleton_iff : Tiling At o [a] o' ↔ At o a o' := by
  simp [cons_iff]

/-- A tiling reads forwards. -/
theorem le (hAt : ∀ {o a o'}, At o a o' → o < o') (h : Tiling At o as o') : o ≤ o' := by
  induction h with
  | nil o => exact Nat.le_refl o
  | cons ha _ ih => exact Nat.le_trans (Nat.le_of_lt (hAt ha)) ih

/-- Records that stand where they stood tile as they did. -/
theorem imp {Bt : Nat → α → Nat → Prop} (h : Tiling At o as o')
    (himp : ∀ a ∈ as, ∀ m m', At m a m' → Bt m a m') : Tiling Bt o as o' := by
  induction h with
  | nil o => exact .nil o
  | cons ha _ ih =>
      rw [List.forall_mem_cons] at himp
      exact .cons (himp.1 _ _ ha) (ih himp.2)

/-- Every record of a tiling stands somewhere in it. -/
theorem exists_at (hAt : ∀ {o a o'}, At o a o' → o < o') (h : Tiling At o as o') (ha : a ∈ as) :
    ∃ m m', At m a m' ∧ o ≤ m ∧ m' ≤ o' := by
  induction h with
  | nil o => simp at ha
  | cons hb has ih =>
      rcases List.mem_cons.mp ha with rfl | ha
      · exact ⟨_, _, hb, Nat.le_refl _, has.le hAt⟩
      · obtain ⟨m, m', hm, hle, hle'⟩ := ih ha
        exact ⟨m, m', hm, Nat.le_trans (Nat.le_of_lt (hAt hb)) hle, hle'⟩

/-- Every position of a tiling belongs to one of its records. -/
theorem exists_covering (h : Tiling At o as o') {j : Nat} (hj : o ≤ j) (hj' : j < o') :
    ∃ a ∈ as, ∃ m m', At m a m' ∧ m ≤ j ∧ j < m' := by
  induction h with
  | nil o => omega
  | @cons o m o' a as ha _ ih =>
      by_cases hjm : j < m
      · exact ⟨a, by simp, o, m, ha, hj, hjm⟩
      · obtain ⟨b, hb, hcover⟩ := ih (Nat.le_of_not_lt hjm) hj'
        exact ⟨b, by simp [hb], hcover⟩

/-- Tilings laid end to end. -/
theorem append {m : Nat} {bs : List α} (h : Tiling At o as m) (h' : Tiling At m bs o') :
    Tiling At o (as ++ bs) o' := by
  induction h with
  | nil o => exact h'
  | cons ha _ ih => exact .cons ha (ih h')

/-- Records of one kind that are records of another under `f` tile alike. -/
theorem map_iff {Bt : Nat → β → Nat → Prop} {f : α → β} {bs : List β}
    (hmap : ∀ o b o', Bt o b o' ↔ ∃ a, At o a o' ∧ b = f a) :
    Tiling Bt o bs o' ↔ ∃ as, Tiling At o as o' ∧ bs = as.map f := by
  induction bs generalizing o with
  | nil => simp
  | cons b bs ih =>
      simp only [cons_iff, ih, hmap]
      constructor
      · rintro ⟨m, ⟨a, ha, rfl⟩, as, has, rfl⟩
        exact ⟨a :: as, .cons ha has, rfl⟩
      · rintro ⟨as, has, hbs⟩
        cases has with
        | nil => simp at hbs
        | cons ha has =>
            simp only [List.map_cons, List.cons.injEq] at hbs
            exact ⟨_, ⟨_, ha, hbs.1⟩, _, has, hbs.2⟩

/-- A tiling by its list of boundaries. -/
theorem iff_boundaries :
    Tiling At o as o' ↔ ∃ b : Nat → Nat, b 0 = o ∧ b as.length = o' ∧
      ∀ (i : Nat) (hi : i < as.length), At (b i) as[i] (b (i + 1)) := by
  constructor
  · intro h
    induction h with
    | nil o => exact ⟨fun _ => o, rfl, rfl, fun i hi => absurd hi (Nat.not_lt_zero i)⟩
    | @cons o m o' a as ha _ ih =>
        obtain ⟨b, hb, hb', hbi⟩ := ih
        refine ⟨fun | 0 => o | i + 1 => b i, rfl, hb', ?_⟩
        intro i hi
        cases i with
        | zero => simpa [hb] using ha
        | succ i => exact hbi i (Nat.lt_of_succ_lt_succ hi)
  · rintro ⟨b, rfl, rfl, hbi⟩
    induction as generalizing b with
    | nil => exact .nil _
    | cons a as ih =>
        refine .cons (hbi 0 (Nat.succ_pos _)) ?_
        exact ih (fun i => b (i + 1)) fun i hi => hbi (i + 1) (Nat.succ_lt_succ hi)

end Tiling

end TruenasPydmi.Foundation
