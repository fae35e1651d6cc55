/-
  Foundation/Overwrite.lean --- writes into a list that keep its length.

  A `Write` puts one value on a stretch of positions.  What a sequence of writes
  does is stated position by position: where none of them reaches, the list is
  unchanged; where those that do agree on the value, that value stands.
-/
import Mathlib.Data.List.Basic

set_option autoImplicit false

namespace TruenasPydmi.Foundation

variable {α : Type*}

/-- One value for the `length` positions from `start` on. -/
structure Write (α : Type*) where
  start : Nat
  length : Nat
  value : α
  deriving DecidableEq, Repr

/-- The write reaches the position. -/
def Write.Covers (w : Write α) (j : Nat) : Prop := w.start ≤ j ∧ j < w.start + w.length

instance (w : Write α) (j : Nat) : Decidable (w.Covers j) :=
  inferInstanceAs (Decidable (_ ∧ _))

/-- The list after a write. -/
def overwrite (xs : List α) (w : Write α) : List α :=
  xs.mapIdx fun j a => if w.Covers j then w.value else a

theorem length_overwrite (xs : List α) (w : Write α) : (overwrite xs w).length = xs.length :=
  List.length_mapIdx

theorem getElem?_overwrite (xs : List α) (w : Write α) (j : Nat) :
    (overwrite xs w)[j]? = if w.Covers j then xs[j]?.map fun _ => w.value else xs[j]? := by
  rw [overwrite, List.getElem?_mapIdx]
  split <;> simp [*]

/-- A write of length zero changes nothing. -/
theorem overwrite_length_zero (xs : List α) (i : Nat) (v : α) : overwrite xs ⟨i, 0, v⟩ = xs := by
  refine List.ext_getElem? fun j => ?_
  rw [getElem?_overwrite, if_neg (by simp [Write.Covers])]

/-- A write over the middle part of a list. -/
theorem overwrite_append_mid (xs ys zs : List α) (v : α) :
    overwrite (xs ++ ys ++ zs) ⟨xs.length, ys.length, v⟩ =
      xs ++ List.replicate ys.length v ++ zs := by
  refine List.ext_getElem? fun j => ?_
  rw [getElem?_overwrite]
  simp only [Write.Covers, List.getElem?_append, List.getElem?_replicate, List.length_append,
    List.length_replicate]
  rcases Nat.lt_or_ge j xs.length with hj | hj
  · rw [if_neg (by omega), if_pos (by omega), if_pos hj, if_pos (by omega), if_pos hj]
  · rcases Nat.lt_or_ge j (xs.length + ys.length) with hj' | hj'
    · have hlt : j - xs.length < ys.length := by omega
      rw [if_pos ⟨hj, hj'⟩, if_pos hj', if_neg (by omega), List.getElem?_eq_getElem hlt,
        if_pos hj', if_neg (by omega), if_pos hlt]
      rfl
    · rw [if_neg (by omega), if_neg (by omega), if_neg (by omega)]

/-- The list after several writes. -/
def writeAll (xs : List α) (ws : List (Write α)) : List α := ws.foldl overwrite xs

theorem length_writeAll (xs : List α) (ws : List (Write α)) :
    (writeAll xs ws).length = xs.length := by
  induction ws generalizing xs with
  | nil => rfl
  | cons w ws ih => exact (ih _).trans (length_overwrite xs w)

theorem writeAll_append (xs : List α) (ws ws' : List (Write α)) :
    writeAll xs (ws ++ ws') = writeAll (writeAll xs ws) ws' :=
  List.foldl_append

/-- Where no write reaches, nothing changes. -/
theorem getElem?_writeAll_of_not_covers {ws : List (Write α)} {j : Nat}
    (h : ∀ w ∈ ws, ¬ w.Covers j) (xs : List α) : (writeAll xs ws)[j]? = xs[j]? := by
  induction ws generalizing xs with
  | nil => rfl
  | cons w ws ih =>
      rw [List.forall_mem_cons] at h
      exact (ih h.2 _).trans (by rw [getElem?_overwrite, if_neg h.1])

/-- Where the writes that reach a position agree, their value stands there. -/
theorem getElem?_writeAll_of_covers {ws : List (Write α)} {j : Nat} {v : α}
    (hvalue : ∀ w ∈ ws, w.Covers j → w.value = v) (hcovers : ∃ w ∈ ws, w.Covers j)
    {xs : List α} (hj : j < xs.length) : (writeAll xs ws)[j]? = some v := by
  induction ws generalizing xs with
  | nil => simp at hcovers
  | cons w ws ih =>
      rw [List.forall_mem_cons] at hvalue
      have hj' : j < (overwrite xs w).length := by rwa [length_overwrite]
      by_cases hrest : ∃ w ∈ ws, w.Covers j
      · exact ih hvalue.2 hrest hj'
      · have hnot : ∀ w ∈ ws, ¬ w.Covers j := fun w hw hc => hrest ⟨w, hw, hc⟩
        have hw : w.Covers j := by
          obtain ⟨w', hw', hc⟩ := hcovers
          rcases List.mem_cons.mp hw' with rfl | hw'
          · exact hc
          · exact absurd hc (hnot w' hw')
        refine (getElem?_writeAll_of_not_covers hnot _).trans ?_
        rw [getElem?_overwrite, if_pos hw, List.getElem?_eq_getElem hj, Option.map_some,
          hvalue.1 hw]

/-! ## Writes behind another list -/

/-- The write, so many positions further along. -/
def Write.shift (n : Nat) (w : Write α) : Write α := { w with start := n + w.start }

theorem overwrite_append_right (xs ys : List α) (w : Write α) :
    overwrite (xs ++ ys) (w.shift xs.length) = xs ++ overwrite ys w := by
  refine List.ext_getElem? fun j => ?_
  rw [getElem?_overwrite]
  rcases Nat.lt_or_ge j xs.length with hj | hj
  · have hcovers : ¬ (w.shift xs.length).Covers j := fun h => by
      have : xs.length + w.start ≤ j := h.1
      omega
    rw [if_neg hcovers, List.getElem?_append_left hj, List.getElem?_append_left hj]
  · have hcovers : (w.shift xs.length).Covers j ↔ w.Covers (j - xs.length) := by
      simp only [Write.Covers, Write.shift]
      omega
    rw [List.getElem?_append_right hj, List.getElem?_append_right hj, getElem?_overwrite]
    exact if_congr hcovers rfl rfl

theorem writeAll_append_right (xs ys : List α) (ws : List (Write α)) :
    writeAll (xs ++ ys) (ws.map (Write.shift xs.length)) = xs ++ writeAll ys ws := by
  induction ws generalizing ys with
  | nil => rfl
  | cons w ws ih =>
      rw [List.map_cons, writeAll, List.foldl_cons, overwrite_append_right]
      exact ih (overwrite ys w)

end TruenasPydmi.Foundation
