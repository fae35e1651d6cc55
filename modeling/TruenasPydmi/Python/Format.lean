/-
  Python/Format.lean --- numbers in a format string.

  `f"{n:02X}"` writes the digits of a number in base sixteen and fills them up with
  zeros on the left to a width; `f"{n}"` is the same in base ten, with at least one
  digit.  Reading the digits back gives the number again, so two numbers with one
  text are one number.
-/
import Mathlib.Data.Nat.Digits.Lemmas
import TruenasPydmi.Python.Builtin

set_option autoImplicit false

namespace TruenasPydmi.Python

/-! ## Digits -/

/-- The digits `0` to `9` and `A` to `F`. -/
def digitChar (d : Nat) : Char := if d < 10 then Char.ofNat (48 + d) else Char.ofNat (55 + d)

/-- The number a digit stands for. -/
def digitValue (c : Char) : Nat := if c.toNat < 65 then c.toNat - 48 else c.toNat - 55

theorem digitValue_digitChar {d : Nat} (h : d < 16) : digitValue (digitChar d) = d := by
  have hall : ∀ e < 16, digitValue (digitChar e) = e := by decide
  exact hall d h

theorem le_toNat_digitChar {d : Nat} (h : d < 16) : 48 ≤ (digitChar d).toNat := by
  have hall : ∀ e < 16, 48 ≤ (digitChar e).toNat := by decide
  exact hall d h

/-! ## Numbers -/

/-- The digits of a number, filled up with zeros to a width. -/
def formatNat (base width n : Nat) : Str :=
  ((Nat.digits base n).reverse.map digitChar).leftpad width '0'

/-- `f"{v:02X}"`.  The sign counts for the width. -/
def formatHex2 (v : Int) : Str :=
  if v < 0 then '-' :: formatNat 16 1 v.natAbs else formatNat 16 2 v.natAbs

/-- The number that digits stand for. -/
def readNat (base : Nat) (s : Str) : Nat := Nat.ofDigits base (s.reverse.map digitValue)

section

variable {base : Nat} (hbase : 1 < base) (hle : base ≤ 16)

include hbase hle

theorem readNat_formatNat (width n : Nat) : readNat base (formatNat base width n) = n := by
  have hdigits : ((Nat.digits base n).map digitChar).map digitValue = Nat.digits base n := by
    rw [List.map_map]
    refine (List.map_congr_left fun d hd => ?_).trans (List.map_id _)
    exact digitValue_digitChar (by have := Nat.digits_lt_base hbase hd; omega)
  have hzero : digitValue '0' = 0 := rfl
  rw [readNat, formatNat, List.leftpad, List.reverse_append, List.map_reverse, List.reverse_reverse,
    List.map_append, hdigits, List.reverse_replicate, List.map_replicate, hzero,
    Nat.ofDigits_append_replicate_zero, Nat.ofDigits_digits]

/-- Numbers have different texts, whatever the widths. -/
theorem formatNat_inj {width width' m n : Nat}
    (h : formatNat base width m = formatNat base width' n) : m = n := by
  rw [← readNat_formatNat hbase hle width m, h, readNat_formatNat hbase hle]

theorem le_toNat_of_mem_formatNat {width n : Nat} {c : Char} (h : c ∈ formatNat base width n) :
    48 ≤ c.toNat := by
  rw [formatNat, List.leftpad] at h
  rcases List.mem_append.mp h with hpad | hdigit
  · rw [List.eq_of_mem_replicate hpad]
    decide
  · obtain ⟨d, hd, rfl⟩ := List.mem_map.mp hdigit
    exact le_toNat_digitChar
      (by have := Nat.digits_lt_base hbase (List.mem_reverse.mp hd); omega)

omit hle in
/-- The last digit. -/
theorem formatNat_succ (width n : Nat) :
    formatNat base (width + 1) n =
      formatNat base width (n / base) ++ [digitChar (n % base)] := by
  cases n with
  | zero =>
      have hzero : digitChar 0 = '0' := rfl
      simp [formatNat, List.leftpad, hzero, List.replicate_succ']
  | succ n =>
      rw [formatNat, Nat.digits_def' hbase (Nat.succ_pos n), List.reverse_cons, List.map_append]
      simp [formatNat, List.leftpad]

end

@[simp] theorem formatNat_zero (base : Nat) : formatNat base 0 0 = [] := by
  simp [formatNat]

theorem formatHex2_inj {v w : Int} (h : formatHex2 v = formatHex2 w) : v = w := by
  have hsign : ∀ {m : Nat} {s : Str}, '-' :: s ≠ formatNat 16 2 m := by
    intro m s heq
    have hmem : '-' ∈ formatNat 16 2 m := heq ▸ List.mem_cons_self
    have hle := le_toNat_of_mem_formatNat (by decide) (by decide) hmem
    exact absurd hle (by decide)
  unfold formatHex2 at h
  split at h
  · split at h
    · have habs := formatNat_inj (by decide) (by decide) (List.cons.inj h).2
      omega
    · exact absurd h hsign
  · split at h
    · exact absurd h.symm hsign
    · have habs := formatNat_inj (by decide) (by decide) h
      omega

/-! ## Numbers of one and two decimal digits -/

theorem formatNat_one {n : Nat} (h : n < 10) : formatNat 10 1 n = [digitChar n] := by
  rw [formatNat_succ (by decide), Nat.div_eq_of_lt h, Nat.mod_eq_of_lt h, formatNat_zero,
    List.nil_append]

theorem formatNat_two {n : Nat} (h : n < 100) :
    formatNat 10 2 n = [digitChar (n / 10), digitChar (n % 10)] := by
  rw [formatNat_succ (by decide), formatNat_one (by omega), List.singleton_append]

end TruenasPydmi.Python
