/-
  Foundation/Slice.lean --- contiguous stretches of a list.

  `slice xs i j` is the stretch of `xs` from position `i` up to, not including,
  `j`; positions past the end contribute nothing.  Two lists are compared
  through `Agree`, which says that a stretch of one is the stretch of the other
  at a possibly different place: it is how "this part of the input was not
  touched" and "the same bytes, further along" are stated.
-/
import Mathlib.Data.List.Basic

set_option autoImplicit false

namespace TruenasPydmi.Foundation

variable {α : Type*}

/-- The stretch of `xs` from position `i` up to `j`. -/
def slice (xs : List α) (i j : Nat) : List α := (xs.take j).drop i

theorem getElem?_slice (xs : List α) (i j k : Nat) :
    (slice xs i j)[k]? = if i + k < j then xs[i + k]? else none := by
  rw [slice, List.getElem?_drop, List.getElem?_take]

theorem getElem?_eq_some_getD {xs : List α} {i : Nat} (d : α) (h : i < xs.length) :
    xs[i]? = some (xs.getD i d) := by
  rw [List.getD_eq_getElem?_getD, List.getElem?_eq_getElem h, Option.getD_some]

theorem length_slice (xs : List α) (i j : Nat) :
    (slice xs i j).length = min j xs.length - i := by
  simp [slice]

theorem length_slice_of_le {xs : List α} {i j : Nat} (h : j ≤ xs.length) :
    (slice xs i j).length = j - i := by
  rw [length_slice, Nat.min_eq_left h]

@[simp] theorem slice_self (xs : List α) (i : Nat) : slice xs i i = [] := by
  simp [slice]

theorem slice_full (xs : List α) : slice xs 0 xs.length = xs := by
  simp [slice]

theorem slice_zero (xs : List α) (j : Nat) : slice xs 0 j = xs.take j := rfl

/-- Cutting a stretch in two. -/
theorem slice_append_slice (xs : List α) {i j k : Nat} (hij : i ≤ j) (hjk : j ≤ k) :
    slice xs i j ++ slice xs j k = slice xs i k := by
  have htake : xs.take j = (xs.take k).take j := by
    rw [List.take_take, Nat.min_eq_left hjk]
  have hdrop : ((xs.take k).drop j) = ((xs.take k).drop i).drop (j - i) := by
    rw [List.drop_drop]; congr 1; omega
  rw [slice, slice, slice, htake, hdrop, List.drop_take]
  exact List.take_append_drop _ _

/-- A stretch starts with the element at its start. -/
theorem slice_eq_cons {xs : List α} {i j : Nat} {a : α} (hij : i < j) (ha : xs[i]? = some a) :
    slice xs i j = a :: slice xs (i + 1) j := by
  apply List.ext_getElem?
  intro k
  cases k with
  | zero => simp [getElem?_slice, hij, ha]
  | succ k =>
      rw [List.getElem?_cons_succ, getElem?_slice, getElem?_slice]
      rw [show i + (k + 1) = i + 1 + k by omega]

theorem mem_slice {xs : List α} {i j : Nat} {a : α} :
    a ∈ slice xs i j ↔ ∃ k, i ≤ k ∧ k < j ∧ xs[k]? = some a := by
  rw [List.mem_iff_getElem?]
  simp only [getElem?_slice]
  constructor
  · rintro ⟨k, hk⟩
    split at hk
    · rename_i hlt
      exact ⟨i + k, Nat.le_add_right i k, hlt, hk⟩
    · simp at hk
  · rintro ⟨k, hik, hkj, hk⟩
    refine ⟨k - i, ?_⟩
    rw [Nat.add_sub_cancel' hik, if_pos hkj, hk]

/-- A stretch of one element throughout. -/
theorem slice_eq_replicate {xs : List α} {i n : Nat} {a : α}
    (h : ∀ j, i ≤ j → j < i + n → xs[j]? = some a) :
    slice xs i (i + n) = List.replicate n a := by
  apply List.ext_getElem?
  intro k
  rw [getElem?_slice, List.getElem?_replicate]
  by_cases hk : k < n
  · rw [if_pos (by omega), if_pos hk, h _ (by omega) (by omega)]
  · rw [if_neg (by omega), if_neg hk]

/-- The stretch that stands between two others. -/
theorem slice_append_mid (pre xs post : List α) :
    slice (pre ++ xs ++ post) pre.length (pre.length + xs.length) = xs := by
  rw [slice, ← List.length_append, List.take_left, List.drop_left]

/-- A replaced element is replaced in every stretch that holds it. -/
theorem slice_set (xs : List α) (i j k : Nat) (a : α) :
    slice (xs.set k a) i j = if k < i then slice xs i j else (slice xs i j).set (k - i) a := by
  rw [slice, slice, List.take_set, List.drop_set]

theorem slice_set_of_not_mem (xs : List α) {i j k : Nat} (a : α) (h : k < i ∨ j ≤ k) :
    slice (xs.set k a) i j = slice xs i j := by
  rw [slice_set]
  split
  · rfl
  · apply List.set_eq_of_length_le
    rw [length_slice]
    omega

/-! ## Agreement of two lists on a stretch -/

/-- The `n` positions of `xs` from `i` on carry what the `n` positions of `ys`
from `j` on carry. -/
def Agree (xs : List α) (i : Nat) (ys : List α) (j n : Nat) : Prop :=
  ∀ k < n, xs[i + k]? = ys[j + k]?

theorem Agree.symm {xs ys : List α} {i j n : Nat} (h : Agree xs i ys j n) :
    Agree ys j xs i n :=
  fun k hk => (h k hk).symm

theorem Agree.mono {xs ys : List α} {i j m n : Nat} (h : Agree xs i ys j n) (hmn : m ≤ n) :
    Agree xs i ys j m :=
  fun k hk => h k (Nat.lt_of_lt_of_le hk hmn)

/-- Agreement on a stretch gives agreement on any stretch inside it. -/
theorem Agree.shift {xs ys : List α} {i j m n : Nat} (h : Agree xs i ys j (m + n)) :
    Agree xs (i + m) ys (j + m) n := by
  intro k hk
  rw [Nat.add_assoc, Nat.add_assoc]
  exact h (m + k) (Nat.add_lt_add_left hk m)

/-- Agreeing stretches are equal as lists. -/
theorem Agree.slice_eq {xs ys : List α} {i j n a b : Nat} (h : Agree xs i ys j n)
    (hb : b ≤ n) : slice xs (i + a) (i + b) = slice ys (j + a) (j + b) := by
  apply List.ext_getElem?
  intro k
  rw [getElem?_slice, getElem?_slice]
  by_cases hk : a + k < b
  · rw [if_pos (by omega), if_pos (by omega), Nat.add_assoc, Nat.add_assoc]
    exact h (a + k) (by omega)
  · rw [if_neg (by omega), if_neg (by omega)]

/-- A list agrees with any list it is a part of. -/
theorem agree_append (pre xs post : List α) :
    Agree (pre ++ xs ++ post) pre.length xs 0 xs.length := by
  intro k hk
  rw [List.append_assoc, List.getElem?_append_right (Nat.le_add_right _ _),
    Nat.add_sub_cancel_left, List.getElem?_append_left hk, Nat.zero_add]

/-- A list agrees with its own beginning, wherever the beginning is cut. -/
theorem agree_take (xs : List α) {i n : Nat} (m : Nat) (h : i + n ≤ m) :
    Agree (xs.take m) i xs i n := by
  intro k hk
  rw [List.getElem?_take, if_pos (by omega)]

end TruenasPydmi.Foundation
