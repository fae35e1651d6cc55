/-
  Image/Values.lean --- the values a field can hold, and how each is stored.

  A decoder of `structures.py` turns the numbers stored in a structure into one
  value.  For each there is a predicate that says which values come out, and a
  function that stores such a value; every value that comes out satisfies the
  predicate, and every value that satisfies it comes out of what is stored for it.
-/
import TruenasPydmi.Decode.Wide
import TruenasPydmi.Foundation.Cells

set_option autoImplicit false

namespace TruenasPydmi

open TruenasPydmi.Foundation TruenasPydmi.Python

/-! ## Texts -/

/-- A text of a string set, or none at all. -/
structure Text (s : Str) : Prop where
  nul_notMem : Char.ofNat 0 ∉ s
  latin1 : ∀ c ∈ s, c.toNat < 0x100
  stripped : strip s = s

theorem Text.nil : Text [] := ⟨by simp, by simp, rfl⟩

/-- A number is read back from its cell. -/
theorem fromLE_cell {cells : List Cell} (o width : Nat) {n : Nat}
    (h : cellAt cells o = some (.num width n)) (hn : n < 256 ^ width) :
    fromLE (slice (image cells) o (o + width)) = n := by
  have hslice := (slice_image h).1
  rw [Cell.size, Cell.image] at hslice
  rw [hslice, fromLE, ofDigits_littleEndian hn]

/-! ## Numbers with a value that stands for nothing -/

/-- Where there is a number it is below `bound`, and not `v`. -/
def Within (bound v : Nat) (x : Option Nat) : Prop := ∀ n ∈ x, n < bound ∧ n ≠ v

section

variable {bound v : Nat} {x : Option Nat}

theorem Within.noneIf_getD (h : Within bound v x) : noneIf v (some (x.getD v)) = x := by
  cases x with
  | none => exact if_pos rfl
  | some n => exact if_neg fun heq => (h n rfl).2 (Option.some.inj heq)

theorem Within.getD_lt (h : Within bound v x) (hv : v < bound) : x.getD v < bound := by
  cases x with
  | none => exact hv
  | some n => exact (h n rfl).1

theorem within_noneIf (h : ∀ n ∈ x, n < bound) : Within bound v (noneIf v x) := by
  intro n hn
  unfold noneIf at hn
  split at hn
  · cases hn
  · rename_i hne
    exact ⟨h n hn, fun heq => hne (by rw [hn, heq])⟩

end

theorem and_eq_of_lt {n k : Nat} (h : n < 2 ^ k) : n &&& (2 ^ k - 1) = n :=
  (Nat.and_two_pow_sub_one_eq_mod n k).trans (Nat.mod_eq_of_lt h)

theorem decodeExtendedSpeed_getD {x : Option Nat} (h : Within 0x80000000 0 x) :
    decodeExtendedSpeed (some (x.getD 0)) = x := by
  have hlow : x.getD 0 &&& 0x7FFFFFFF = x.getD 0 :=
    and_eq_of_lt (k := 31) (h.getD_lt (by decide))
  show noneIf 0 (some (x.getD 0 &&& 0x7FFFFFFF)) = x
  rw [hlow, h.noneIf_getD]

theorem within_decodeExtendedSpeed (x : Option Nat) :
    Within 0x80000000 0 (decodeExtendedSpeed x) := by
  cases x with
  | none => exact nofun
  | some n =>
      refine within_noneIf fun m hm => ?_
      cases hm
      exact Nat.and_lt_two_pow n (show 0x7FFFFFFF < 2 ^ 31 by decide)

theorem decodeRank_getD {x : Option Nat} (h : Within 0x10 0 x) :
    decodeRank (some (x.getD 0)) = x := by
  have hlow : x.getD 0 &&& 0x0F = x.getD 0 := and_eq_of_lt (k := 4) (h.getD_lt (by decide))
  show (if truthy (x.getD 0 &&& 0x0F) then some (x.getD 0 &&& 0x0F) else none) = x
  rw [hlow]
  cases x with
  | none => rfl
  | some n => exact if_pos ((truthy_nat n).mpr (h n rfl).2)

theorem within_decodeRank (x : Option Nat) : Within 0x10 0 (decodeRank x) := by
  cases x with
  | none => exact nofun
  | some n =>
      intro m hm
      unfold decodeRank at hm
      simp only at hm
      split at hm
      · rename_i htruthy
        cases hm
        exact ⟨Nat.and_lt_two_pow n (show 0x0F < 2 ^ 4 by decide), (truthy_nat _).mp htruthy⟩
      · cases hm

/-! ## Counts and the family of a processor -/

/-- The narrow and the wide field of a count. -/
def storeCount : Option Nat → Nat × Nat
  | none => (0, 0)
  | some n => (0xFF, n)

theorem resolve_storeCount (x : Option Nat) :
    resolve (some (storeCount x).1) (some (storeCount x).2) = x := by
  cases x with
  | none => rfl
  | some n => exact resolve_sentinel (by simp)

theorem resolve_lt {small big : Option Nat} (hsmall : ∀ n ∈ small, n < 0x100)
    (hbig : ∀ n ∈ big, n < 0x10000) : ∀ n ∈ resolve small big, n < 0x10000 := by
  intro n hn
  by_cases hwide : small = some 0xFF ∧ big ≠ none
  · rw [hwide.1, resolve_sentinel hwide.2] at hn
    exact hbig n hn
  · rw [resolve_narrow hwide] at hn
    have := (within_noneIf hsmall n hn).1
    omega

theorem decodeFamily_lt {small : Nat} {big : Option Nat} (hsmall : small < 0x100)
    (hbig : ∀ n ∈ big, n < 0x10000) : decodeFamily small big < 0x10000 := by
  cases big with
  | none => exact show small < 0x10000 by omega
  | some n =>
      show (if small = 0xFE then n else small) < 0x10000
      split
      · exact hbig n rfl
      · omega

/-! ## Sizes -/

/-- A size in KB or in units of 64 KB, of 31 bits. -/
def CacheSize (x : Option Nat) : Prop :=
  ∀ n ∈ x, ∃ (large : Bool) (k : Nat), k < 0x80000000 ∧ n = k * cacheUnit large

/-- The 16-bit field of a cache size and the 32-bit field behind it. -/
def storeCacheSize : Option Nat → Nat × Nat
  | none => (0xFFFF, 0)
  | some n =>
      if n = 0 then (0, 0)
      else if n % 1024 = 0 ∧ n / 1024 < 0x80000000 then (0xFFFF, withFlag 31 false (n / 1024))
      else (0xFFFF, withFlag 31 true (n / 65536))

theorem decodeCacheSize_wide {large : Bool} {k : Nat} (hk : k < 0x80000000) (hpos : k ≠ 0) :
    decodeCacheSize (some 0xFFFF) (some (withFlag 31 large k)) = some (k * cacheUnit large) := by
  have hlow : withFlag 31 large k &&& 0x7FFFFFFF = k := withFlag_and_low large hk
  have hflag : truthy (withFlag 31 large k &&& 0x80000000) = large := truthy_withFlag hk
  have hzero : withFlag 31 large k ≠ 0 := fun h => hpos (withFlag_eq_zero_iff.mp h).2
  simp [decodeCacheSize, hzero, hlow, hflag, cacheUnit]

theorem decodeCacheSize_store {x : Option Nat} (h : CacheSize x) :
    decodeCacheSize (some (storeCacheSize x).1) (some (storeCacheSize x).2) = x := by
  cases x with
  | none => rfl
  | some n =>
      unfold storeCacheSize
      simp only
      split
      · rename_i hzero
        rw [hzero]
        rfl
      · rename_i hpos
        split
        · rename_i hsmall
          rw [decodeCacheSize_wide hsmall.2 (by omega), cacheUnit, if_neg Bool.false_ne_true,
            Option.some.injEq]
          omega
        · rename_i hlarge
          obtain ⟨large, k, hk, rfl⟩ := h n rfl
          cases large with
          | false =>
              rw [cacheUnit, if_neg Bool.false_ne_true] at hlarge
              exact absurd ⟨by omega, by omega⟩ hlarge
          | true =>
              rw [cacheUnit, if_pos rfl] at hpos ⊢
              rw [show k * 65536 / 65536 = k by omega, decodeCacheSize_wide hk (by omega),
                cacheUnit, if_pos rfl]

theorem storeCacheSize_lt {x : Option Nat} (h : CacheSize x) :
    (storeCacheSize x).1 < 0x10000 ∧ (storeCacheSize x).2 < 0x100000000 := by
  cases x with
  | none => exact ⟨by decide, by decide⟩
  | some n =>
      obtain ⟨large, k, hk, rfl⟩ := h n rfl
      unfold storeCacheSize
      simp only
      split
      · exact ⟨by decide, by decide⟩
      · split
        · rename_i hsmall
          refine ⟨show 0xFFFF < 0x10000 by decide, ?_⟩
          rw [withFlag, if_neg Bool.false_ne_true, Nat.zero_or]
          omega
        · refine ⟨show 0xFFFF < 0x10000 by decide, ?_⟩
          refine Nat.or_lt_two_pow (show 2 ^ 31 < 2 ^ 32 by decide) ?_
          have : cacheUnit large ≤ 65536 := by cases large <;> decide
          have := Nat.mul_le_mul_left k this
          omega

theorem cacheSize_decode (value value2 : Option Nat) :
    CacheSize (decodeCacheSize value value2) := by
  have hunit : ∀ (large : Bool) (k : Nat), k < 0x80000000 →
      CacheSize (some (k * if large then 65536 else 1024)) := by
    intro large k hk n hn
    cases hn
    exact ⟨large, k, hk, rfl⟩
  cases value with
  | none => exact nofun
  | some w =>
      unfold decodeCacheSize
      simp only
      split
      · intro n hn
        cases hn
        exact ⟨false, 0, by decide, rfl⟩
      · split
        · cases value2 with
          | none => exact nofun
          | some w =>
              simp only
              split
              · exact nofun
              · exact hunit _ _ (Nat.and_lt_two_pow w (show 0x7FFFFFFF < 2 ^ 31 by decide))
        · refine hunit _ _ (Nat.lt_trans ?_ (show 2 ^ 15 < 0x80000000 by decide))
          exact Nat.and_lt_two_pow w (by decide)

/-- The 32-bit field of a capacity in KB and the 64-bit field in bytes behind it. -/
def storeCapacity : Option Nat → Nat × Nat
  | none => (0x80000000, 0)
  | some n => if n = 0 then (0, 0) else (0x80000000, n)

theorem decodeCapacity_store (x : Option Nat) :
    decodeCapacity (some (storeCapacity x).1) (some (storeCapacity x).2) = x := by
  cases x with
  | none => rfl
  | some n =>
      unfold storeCapacity
      simp only
      split
      · rename_i hzero
        rw [hzero]
        rfl
      · rename_i hpos
        exact decodeCapacity_extended hpos

theorem storeCapacity_lt {x : Option Nat} (h : ∀ n ∈ x, n < 0x10000000000000000) :
    (storeCapacity x).1 < 0x100000000 ∧ (storeCapacity x).2 < 0x10000000000000000 := by
  cases x with
  | none => exact ⟨by decide, by decide⟩
  | some n =>
      have hn := h n rfl
      unfold storeCapacity
      simp only
      split
      · exact ⟨by decide, by decide⟩
      · exact ⟨show 0x80000000 < 0x100000000 by decide, hn⟩

theorem decodeCapacity_lt {kb extended : Option Nat} (hkb : ∀ n ∈ kb, n < 0x100000000)
    (hextended : ∀ n ∈ extended, n < 0x10000000000000000) :
    ∀ n ∈ decodeCapacity kb extended, n < 0x10000000000000000 := by
  intro n hn
  unfold decodeCapacity at hn
  split at hn
  · obtain ⟨k, hk, rfl⟩ := Option.map_eq_some_iff.mp hn
    have := hkb k hk
    omega
  · cases extended with
    | none => cases hn
    | some m =>
        simp only at hn
        split at hn
        · cases hn
          exact hextended _ rfl
        · cases hn

/-- A size in KB of 15 bits or in MB of 32 bits. -/
def MemorySize (x : Option Nat) : Prop :=
  ∀ n ∈ x, (∃ k < 0x7FFF, n = k * 1024) ∨ ∃ k < 0x100000000, n = k * 1024 * 1024

/-- The 16-bit field of a memory size and the 32-bit field behind it. -/
def storeMemorySize : Option Nat → Nat × Nat
  | none => (0xFFFF, 0)
  | some n =>
      if n = 0 then (0, 0)
      else if n % 1048576 = 0 then (0x7FFF, n / 1048576)
      else (0x8000 ||| n / 1024, 0)

theorem decodeMemorySize_store {x : Option Nat} (h : MemorySize x) :
    decodeMemorySize (some (storeMemorySize x).1) (some (storeMemorySize x).2) = x := by
  cases x with
  | none => rfl
  | some n =>
      unfold storeMemorySize
      simp only
      split
      · rename_i hzero
        rw [hzero]
        rfl
      · rename_i hpos
        split
        · rename_i hmb
          rw [decodeMemorySize_extended (by omega), Option.some.injEq]
          omega
        · rename_i hkb
          rcases h n rfl with ⟨k, hk, rfl⟩ | ⟨k, hk, rfl⟩
          · rw [show k * 1024 / 1024 = k by omega, decodeMemorySize_kb hk]
          · exact absurd (show k * 1024 * 1024 % 1048576 = 0 by omega) hkb

theorem storeMemorySize_lt {x : Option Nat} (h : MemorySize x) :
    (storeMemorySize x).1 < 0x10000 ∧ (storeMemorySize x).2 < 0x100000000 := by
  cases x with
  | none => exact ⟨by decide, by decide⟩
  | some n =>
      unfold storeMemorySize
      simp only
      split
      · exact ⟨by decide, by decide⟩
      · split
        · refine ⟨show 0x7FFF < 0x10000 by decide, ?_⟩
          rcases h n rfl with ⟨k, hk, rfl⟩ | ⟨k, hk, rfl⟩ <;> simp only <;> omega
        · rename_i hkb
          refine ⟨?_, show 0 < 0x100000000 by decide⟩
          rcases h n rfl with ⟨k, hk, rfl⟩ | ⟨k, hk, rfl⟩
          · exact Nat.or_lt_two_pow (show 0x8000 < 2 ^ 16 by decide) (by omega)
          · exact absurd (show k * 1024 * 1024 % 1048576 = 0 by omega) hkb

theorem memorySize_decode {word wide : Option Nat} (hword : ∀ n ∈ word, n < 0x10000)
    (hwide : ∀ n ∈ wide, n < 0x100000000) : MemorySize (decodeMemorySize word wide) := by
  cases word with
  | none => exact nofun
  | some w =>
      have hw := hword w rfl
      have hlow : w &&& 0x7FFF = w % 0x8000 := Nat.and_two_pow_sub_one_eq_mod w 15
      unfold decodeMemorySize
      simp only
      split
      · exact nofun
      · rename_i hunknown
        split
        · rintro n ⟨⟩
          exact Or.inl ⟨0, by decide, rfl⟩
        · split
          · cases wide with
            | none => exact nofun
            | some m =>
                simp only
                split
                · exact nofun
                · rintro n ⟨⟩
                  exact Or.inr ⟨m, hwide m rfl, rfl⟩
          · split
            · rename_i hflag
              have hlarge : 0x8000 ≤ w := by
                by_contra hsmall
                refine (truthy_nat _).mp hflag ?_
                rw [show (0x8000 : Nat) = 2 ^ 15 from rfl, Nat.and_two_pow,
                  Nat.testBit_lt_two_pow (by omega)]
                rfl
              rintro n ⟨⟩
              exact Or.inl ⟨w &&& 0x7FFF, by omega, rfl⟩
            · rintro n ⟨⟩
              exact Or.inr ⟨w, by omega, rfl⟩

/-! ## Bytes -/

/-- The byte of a chassis: the lock above its type. -/
theorem chassisByte {type : Nat} (h : type < 0x80) (locked : Bool) :
    withFlag 7 locked type &&& 0x7F = type ∧ truthy (withFlag 7 locked type &&& 0x80) = locked :=
  ⟨withFlag_and_low locked (k := 7) h, truthy_withFlag (k := 7) h⟩

/-- The byte of a version: the minor number below the major one. -/
theorem versionByte {major minor : Nat} (hmajor : major < 0x10) (hminor : minor < 0x10) :
    ((0x10 * major + minor) >>> 4) &&& 0x0F = major ∧
      (0x10 * major + minor) &&& 0x0F = minor := by
  constructor
  · rw [Nat.shiftRight_eq_div_pow, show (0x10 * major + minor) / 2 ^ 4 = major by omega]
    exact and_eq_of_lt (k := 4) hmajor
  · refine (Nat.and_two_pow_sub_one_eq_mod _ 4).trans ?_
    omega

/-- The stored form of a UUID, and of none. -/
def storeUuid : Option UUID → Bytes
  | none => List.replicate 16 0
  | some u => swapBytesLE u.bytes

theorem swapBytesLE_swapBytesLE {b : Bytes} (h : b.length = 16) :
    swapBytesLE (swapBytesLE b) = b := by
  match b, h with
  | [_, _, _, _, _, _, _, _, _, _, _, _, _, _, _, _], _ => rfl

theorem length_storeUuid (x : Option UUID) : (storeUuid x).length = 16 := by
  cases x with
  | none => rfl
  | some u => exact length_swapBytesLE u.length_eq

/-- A UUID that is not all zeros is read back. -/
theorem uuid_storeUuid {x : Option UUID} (h : ∀ u ∈ x, u.bytes ≠ List.replicate 16 0) :
    (if storeUuid x = List.replicate 16 0 then none else (uuidOfBytesLE (storeUuid x)).toOption) =
      x := by
  cases x with
  | none => exact if_pos rfl
  | some u =>
      have hback := swapBytesLE_swapBytesLE u.length_eq
      have hne : storeUuid (some u) ≠ List.replicate 16 0 := by
        intro hzero
        rw [storeUuid] at hzero
        rw [hzero] at hback
        exact h u rfl (hback.symm.trans rfl)
      rw [if_neg hne, uuidOfBytesLE, dif_pos (length_storeUuid _)]
      show some _ = some u
      rw [Option.some.injEq, UUID.mk.injEq]
      exact hback

theorem uuid_ne_zero (raw : RawStructure) : ∀ u ∈ raw.uuid, u.bytes ≠ List.replicate 16 0 := by
  intro u hu hzero
  unfold RawStructure.uuid at hu
  split at hu
  · rename_i hlength
    split at hu
    · cases hu
    · rename_i hne
      have hslice : (slice raw.formatted 4 20).length = 16 := length_slice_of_le hlength
      rw [uuidOfBytesLE, dif_pos hslice] at hu
      cases hu
      replace hzero : swapBytesLE (slice raw.formatted 4 20) = List.replicate 16 0 := hzero
      refine hne ?_
      rw [← swapBytesLE_swapBytesLE hslice, hzero]
      rfl
  · cases hu

/-- A vendor of at most four characters, without NULs at its end. -/
structure Vendor (s : Str) : Prop where
  length_le : s.length ≤ 4
  latin1 : ∀ c ∈ s, c.toNat < 0x100
  last_ne : ∀ h : s ≠ [], s.getLast h ≠ Char.ofNat 0

/-- The four bytes of a vendor. -/
def storeVendor (s : Str) : Bytes := encodeLatin1 s ++ List.replicate (4 - s.length) 0

theorem length_storeVendor {s : Str} (h : Vendor s) : (storeVendor s).length = 4 := by
  have := h.length_le
  rw [storeVendor, List.length_append, encodeLatin1, List.length_map, List.length_replicate]
  omega

theorem decode_storeVendor {s : Str} (h : Vendor s) :
    decodeLatin1 (rstripNul (storeVendor s)) = s := by
  have hpad : rstripNul (storeVendor s) = rstripNul (encodeLatin1 s) := by
    rw [rstripNul, List.rdropWhile, storeVendor, List.reverse_append,
      List.dropWhile_append_of_pos (by simp)]
    rfl
  have hkept : rstripNul (encodeLatin1 s) = encodeLatin1 s := by
    refine List.rdropWhile_eq_self_iff.mpr fun hne hnul => ?_
    have hs : s ≠ [] := fun hnil => hne (by rw [hnil]; rfl)
    have hlt := h.latin1 _ (List.getLast_mem hs)
    refine h.last_ne hs ?_
    have hlast : (encodeLatin1 s).getLast hne = UInt8.ofNat (s.getLast hs).toNat :=
      List.getLast_map hne
    rw [hlast, beq_iff_eq, ← UInt8.toNat_inj, UInt8.toNat_ofNat_of_lt' hlt] at hnul
    rw [← Char.ofNat_toNat (s.getLast hs), hnul]
    rfl
  rw [hpad, hkept, decodeLatin1_encodeLatin1 h.latin1]

theorem vendor_of_bytes {b : Bytes} (h : b.length ≤ 4) : Vendor (decodeLatin1 (rstripNul b)) where
  length_le := by
    rw [decodeLatin1, List.length_map]
    exact (List.rdropWhile_prefix _ _).length_le.trans h
  latin1 _ hc := toNat_lt_of_mem_decodeLatin1 hc
  last_ne hne hnul := by
    have hne' : rstripNul b ≠ [] := fun hnil => hne (by rw [hnil]; rfl)
    refine List.rdropWhile_last_not _ b hne' ?_
    have hlast : (decodeLatin1 (rstripNul b)).getLast hne =
        Char.ofNat ((rstripNul b).getLast hne').toNat := List.getLast_map hne
    have hzero := congrArg Char.toNat (hlast.symm.trans hnul)
    rw [toNat_charOfNat] at hzero
    rw [beq_iff_eq, ← UInt8.toNat_inj]
    exact hzero

end TruenasPydmi
