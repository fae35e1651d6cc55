/-
  Foundation/Flags.lean --- names selected from a table by the bits of a number.

  A table lists one name for each flag bit, and a number selects the names of its
  bits, in the order of the table.  When no name stands twice in the table, two
  numbers select the same names exactly when they agree on every flag of it; when
  two tables share no name, the concatenation of two selections tells both apart.
  Numbers are integers in two's complement, so negative ones have bits as well.
-/
import Mathlib.Data.Int.Bitwise
import Mathlib.Data.List.Nodup

set_option autoImplicit false

namespace TruenasPydmi.Foundation

/-! ## Bits -/

/-- The bits `lo` to `hi` of two numbers are the same. -/
def AgreeOnBits (v w : Int) (lo hi : Nat) : Prop :=
  ∀ k, lo ≤ k → k ≤ hi → v.testBit k = w.testBit k

theorem testBit_natCast (n k : Nat) : (n : Int).testBit k = n.testBit k := rfl

/-- Masking with a power of two tests a bit. -/
theorem land_two_pow_eq_zero_iff (v : Int) (k : Nat) :
    Int.land v ((2 ^ k : Nat) : Int) = 0 ↔ v.testBit k = false := by
  have hbit : ∀ j, (Int.land v ((2 ^ k : Nat) : Int)).testBit j =
      (v.testBit j && decide (k = j)) := by
    intro j
    rw [Int.testBit_land, testBit_natCast, Nat.testBit_two_pow]
  constructor
  · intro hzero
    have hk := hbit k
    rw [hzero, decide_eq_true rfl, Bool.and_true] at hk
    rw [← hk]
    exact Nat.zero_testBit k
  · intro hclear
    obtain ⟨r, hr⟩ : ∃ r : Nat, Int.land v ((2 ^ k : Nat) : Int) = r := by
      cases v with
      | ofNat n => exact ⟨_, rfl⟩
      | negSucc n => exact ⟨_, rfl⟩
    have hr0 : r = 0 := by
      apply Nat.zero_of_testBit_eq_false
      intro j
      rw [← testBit_natCast, ← hr, hbit j]
      by_cases hj : k = j
      · rw [← hj, hclear, Bool.false_and]
      · rw [decide_eq_false hj, Bool.and_false]
    rw [hr, hr0]
    rfl

/-- Numbers below `2 ^ n` are determined by their first `n` bits. -/
theorem eq_iff_agreeOnBits {m n b : Nat} (hm : m < 2 ^ (b + 1)) (hn : n < 2 ^ (b + 1)) :
    m = n ↔ AgreeOnBits m n 0 b := by
  constructor
  · rintro rfl k _ _
    rfl
  · intro h
    apply Nat.eq_of_testBit_eq
    intro k
    by_cases hk : k ≤ b
    · exact h k (Nat.zero_le k) hk
    · have hpow : 2 ^ (b + 1) ≤ 2 ^ k := Nat.pow_le_pow_right (by omega) (by omega)
      rw [Nat.testBit_lt_two_pow (Nat.lt_of_lt_of_le hm hpow),
        Nat.testBit_lt_two_pow (Nat.lt_of_lt_of_le hn hpow)]

/-! ## A flag above a number -/

/-- A number of `k` bits with a flag as bit `k`. -/
def withFlag (k : Nat) (flag : Bool) (n : Nat) : Nat := (if flag then 2 ^ k else 0) ||| n

section

variable {k n : Nat} (flag : Bool)

/-- The number below the flag. -/
theorem withFlag_and_low (h : n < 2 ^ k) : withFlag k flag n &&& (2 ^ k - 1) = n := by
  cases flag with
  | false =>
      rw [withFlag, if_neg Bool.false_ne_true, Nat.zero_or, Nat.and_two_pow_sub_one_eq_mod,
        Nat.mod_eq_of_lt h]
  | true =>
      rw [withFlag, if_pos rfl, Nat.and_or_distrib_right, Nat.and_two_pow_sub_one_eq_mod,
        Nat.and_two_pow_sub_one_eq_mod, Nat.mod_self, Nat.zero_or, Nat.mod_eq_of_lt h]

/-- The flag above the number. -/
theorem withFlag_and_flag (h : n < 2 ^ k) :
    withFlag k flag n &&& 2 ^ k ≠ 0 ↔ flag = true := by
  have hn : n &&& 2 ^ k = 0 := by
    rw [Nat.and_two_pow, Nat.testBit_lt_two_pow h]
    simp
  cases flag with
  | false => simp [withFlag, hn]
  | true => simp [withFlag, Nat.and_or_distrib_right, hn]

/-- Every number of `k + 1` bits is one with a flag. -/
theorem withFlag_testBit_mod (h : n < 2 ^ (k + 1)) :
    withFlag k (n.testBit k) (n % 2 ^ k) = n := by
  apply Nat.eq_of_testBit_eq
  intro j
  rw [withFlag, Nat.testBit_or, Nat.testBit_mod_two_pow]
  rcases Nat.lt_trichotomy j k with hj | hj | hj
  · cases n.testBit k with
    | false => simp [hj]
    | true => simp [hj, Nat.testBit_two_pow_of_ne (Nat.ne_of_gt hj)]
  · subst hj
    cases n.testBit j with
    | false => simp
    | true => simp
  · have hpow : 2 ^ (k + 1) ≤ 2 ^ j := Nat.pow_le_pow_right (by omega) hj
    rw [Nat.testBit_lt_two_pow (Nat.lt_of_lt_of_le h hpow), decide_eq_false (by omega)]
    cases n.testBit k with
    | false => simp
    | true => simp [Nat.testBit_two_pow_of_ne (Nat.ne_of_lt hj)]

end

/-! ## Selections -/

section

variable {α β : Type*}

/-- Two selections from a table without repeated names are equal exactly when
they select the same entries. -/
theorem map_filter_eq_iff {f : α → β} {l : List α} (hnodup : (l.map f).Nodup)
    {p q : α → Bool} : (l.filter p).map f = (l.filter q).map f ↔ ∀ a ∈ l, p a = q a := by
  constructor
  · intro h a ha
    -- an entry is selected exactly when its name is among the names
    have hmem : ∀ r : α → Bool, f a ∈ (l.filter r).map f ↔ r a = true := by
      intro r
      rw [List.mem_map]
      constructor
      · rintro ⟨a', ha', hname⟩
        rw [List.mem_filter] at ha'
        rw [← List.inj_on_of_nodup_map hnodup ha'.1 ha hname]
        exact ha'.2
      · intro hr
        exact ⟨a, List.mem_filter.mpr ⟨ha, hr⟩, rfl⟩
    rw [Bool.eq_iff_iff, ← hmem p, ← hmem q, h]
  · intro h
    rw [List.filter_congr h]

/-- A concatenation of two lists with elements from two sides that have nothing
in common determines both lists. -/
theorem append_eq_append_iff_of_sides (left right : α → Prop) {xs xs' ys ys' : List α}
    (hsides : ∀ a, left a → ¬ right a) (hxs : ∀ a ∈ xs, left a) (hxs' : ∀ a ∈ xs', left a)
    (hys : ∀ a ∈ ys, right a) (hys' : ∀ a ∈ ys', right a) :
    xs ++ ys = xs' ++ ys' ↔ xs = xs' ∧ ys = ys' := by
  classical
  -- the elements of the left side are the first list
  have hleft : ∀ xs ys : List α, (∀ a ∈ xs, left a) → (∀ a ∈ ys, right a) →
      (xs ++ ys).filter (fun a => decide (left a)) = xs := by
    intro xs ys hxs hys
    rw [List.filter_append, List.filter_eq_self.mpr fun a ha => decide_eq_true (hxs a ha),
      List.filter_eq_nil_iff.mpr fun a ha => ?_, List.append_nil]
    simpa using fun hl => hsides a hl (hys a ha)
  constructor
  · intro h
    have hx : xs = xs' := by rw [← hleft xs ys hxs hys, h, hleft xs' ys' hxs' hys']
    rw [hx] at h
    exact ⟨hx, List.append_cancel_left h⟩
  · rintro ⟨rfl, rfl⟩
    rfl

end

end TruenasPydmi.Foundation
