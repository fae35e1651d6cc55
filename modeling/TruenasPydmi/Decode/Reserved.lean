/-
  Decode/Reserved.lean --- the reserved bits of a memory device.

  Bit 31 of the Extended Size and of the two extended speeds of a Type 17
  structure is reserved.  `withReserved` sets or clears it in any of the three
  fields.  The speeds are decoded with the bit masked off, so nothing of it is
  left; the size is not, so that the bit is seen in the size of every module whose
  size word refers to the Extended Size.
-/
import TruenasPydmi.Decode.Local

set_option autoImplicit false

namespace TruenasPydmi

open TruenasPydmi.Foundation TruenasPydmi.Python

/-! ## Setting the reserved bits -/

/-- A byte with its highest bit set or cleared. -/
def withBit7 (b : UInt8) (v : Bool) : UInt8 := if v then b ||| 0x80 else b &&& 0x7F

/-- The structure with bit 31 of the field at `o` set or cleared, or left alone.
Where the field is cut off there is nothing to change. -/
def RawStructure.withBit31 (raw : RawStructure) (o : Nat) : Option Bool → RawStructure
  | none => raw
  | some v => raw.replaceByte (o + 3) (withBit7 (raw.formatted.getD (o + 3) 0) v)

/-- The structure with the reserved bits of Extended Size, Extended Speed and
Extended Configured Memory Speed set or cleared. -/
def RawStructure.withReserved (raw : RawStructure) (size speed configured : Option Bool) :
    RawStructure :=
  ((raw.withBit31 24 size).withBit31 80 speed).withBit31 84 configured

/-- The other bits stay. -/
theorem withBit7_mod (b : UInt8) (v : Bool) : (withBit7 b v).toNat % 128 = b.toNat % 128 := by
  have hmod : ∀ n : Nat, n &&& 127 = n % 128 := fun n => Nat.and_two_pow_sub_one_eq_mod n 7
  cases v with
  | true =>
      simp only [withBit7, if_true, UInt8.toNat_or, UInt8.reduceToNat, ← hmod,
        Nat.and_or_distrib_right]
      simp
  | false => simp [withBit7, hmod]

theorem withBit7_true_ne_false (b : UInt8) :
    (withBit7 b true).toNat ≠ (withBit7 b false).toNat := by
  have htrue : 128 ≤ (withBit7 b true).toNat := by
    simpa [withBit7] using Nat.right_le_or (n := b.toNat) (m := 128)
  have hfalse : (withBit7 b false).toNat < 128 := by
    simpa [withBit7] using Nat.and_lt_two_pow b.toNat (n := 7) (y := 127) (by decide)
  omega

/-- Setting a reserved bit replaces one byte, by one with the same low bits. -/
theorem withBit31_eq_replaceByte (raw : RawStructure) (o : Nat) (v : Option Bool) :
    ∃ b, raw.withBit31 o v = raw.replaceByte (o + 3) b ∧
      ∀ x, raw.formatted[o + 3]? = some x → b.toNat % 128 = x.toNat % 128 := by
  cases v with
  | none =>
      refine ⟨raw.formatted.getD (o + 3) 0, ?_, ?_⟩
      · rw [RawStructure.withBit31, RawStructure.replaceByte, List.getD_eq_getElem?_getD]
        cases hx : raw.formatted[o + 3]? with
        | none => rw [List.set_eq_of_length_le (List.getElem?_eq_none_iff.mp hx)]
        | some x =>
            obtain ⟨hlt, rfl⟩ := List.getElem?_eq_some_iff.mp hx
            simp
      · intro x hx
        rw [List.getD_eq_getElem?_getD, hx, Option.getD_some]
  | some v =>
      refine ⟨_, rfl, ?_⟩
      intro x hx
      rw [List.getD_eq_getElem?_getD, hx, Option.getD_some, withBit7_mod]

/-! ## A field whose highest byte changes -/

section

variable {raw : RawStructure} {o : Nat} {x b : UInt8}

/-- A 32-bit field as its low 24 bits and its highest byte. -/
theorem dword_eq (hx : raw.formatted[o + 3]? = some x) :
    raw.dword o = some (fromLE (slice raw.formatted o (o + 3)) + 16777216 * x.toNat) := by
  obtain ⟨hlt, -⟩ := List.getElem?_eq_some_iff.mp hx
  have hlast : slice raw.formatted (o + 3) (o + 4) = [x] := by
    rw [slice_eq_cons (by omega) hx, slice_self]
  have hlength : (slice raw.formatted o (o + 3)).length = 3 := by
    rw [length_slice_of_le (by omega)]
    omega
  rw [RawStructure.dword, RawStructure.field, if_pos (by omega),
    ← slice_append_slice raw.formatted (show o ≤ o + 3 by omega) (show o + 3 ≤ o + 4 by omega),
    hlast, fromLE, List.map_append, Nat.ofDigits_append, List.length_map, hlength]
  simp [fromLE]

theorem dword_eq_none_iff : raw.dword o = none ↔ raw.formatted[o + 3]? = none := by
  rw [List.getElem?_eq_none_iff, RawStructure.dword, RawStructure.field]
  split
  · simp
    omega
  · simp
    omega

theorem replaceByte_dword_high (hx : raw.formatted[o + 3]? = some x) :
    (raw.replaceByte (o + 3) b).dword o =
      some (fromLE (slice raw.formatted o (o + 3)) + 16777216 * b.toNat) := by
  obtain ⟨hlt, -⟩ := List.getElem?_eq_some_iff.mp hx
  rw [dword_eq (getElem?_replaceByte raw b hlt), replaceByte_slice raw b (Or.inr (by omega))]

/-- An extended speed does not show its reserved bit. -/
theorem replaceByte_extendedSpeed
    (h : ∀ x, raw.formatted[o + 3]? = some x → b.toNat % 128 = x.toNat % 128) :
    decodeExtendedSpeed ((raw.replaceByte (o + 3) b).dword o) =
      decodeExtendedSpeed (raw.dword o) := by
  cases hx : raw.formatted[o + 3]? with
  | none =>
      have hcut : (raw.replaceByte (o + 3) b).dword o = none := by
        rw [dword_eq_none_iff, List.getElem?_eq_none_iff, length_replaceByte]
        exact List.getElem?_eq_none_iff.mp hx
      rw [hcut, dword_eq_none_iff.mpr hx]
  | some x =>
      have hlow := h x hx
      have hmask : ∀ n : Nat, n &&& 0x7FFFFFFF = n % 0x80000000 :=
        fun n => Nat.and_two_pow_sub_one_eq_mod n 31
      rw [replaceByte_dword_high hx, dword_eq hx]
      simp only [decodeExtendedSpeed, hmask]
      congr 2
      omega

end

/-! ## The device under its reserved bits -/

section

variable (raw : RawStructure) (size speed configured : Option Bool)

/-- Setting the reserved bits replaces three bytes.  The two behind the size are
replaced by ones with the same low bits, so that the speeds stay. -/
theorem withReserved_eq_replaceByte : ∃ b₁ b₂ b₃,
    raw.withReserved size speed configured =
      ((raw.replaceByte 27 b₁).replaceByte 83 b₂).replaceByte 87 b₃ ∧
    decodeExtendedSpeed ((raw.withReserved size speed configured).dword 80) =
      decodeExtendedSpeed (raw.dword 80) ∧
    decodeExtendedSpeed ((raw.withReserved size speed configured).dword 84) =
      decodeExtendedSpeed (raw.dword 84) := by
  obtain ⟨b₁, h₁, -⟩ := withBit31_eq_replaceByte raw 24 size
  obtain ⟨b₂, h₂, hlow₂⟩ := withBit31_eq_replaceByte (raw.replaceByte 27 b₁) 80 speed
  obtain ⟨b₃, h₃, hlow₃⟩ :=
    withBit31_eq_replaceByte ((raw.replaceByte 27 b₁).replaceByte 83 b₂) 84 configured
  have heq : raw.withReserved size speed configured =
      ((raw.replaceByte 27 b₁).replaceByte 83 b₂).replaceByte 87 b₃ := by
    rw [RawStructure.withReserved, h₁, h₂, h₃]
  have hspeed := replaceByte_extendedSpeed hlow₂
  have hconfigured := replaceByte_extendedSpeed hlow₃
  refine ⟨b₁, b₂, b₃, heq, ?_, ?_⟩
  · rw [heq, replaceByte_dword _ _ (by omega), hspeed, replaceByte_dword _ _ (by omega)]
  · rw [heq, hconfigured, replaceByte_dword _ _ (by omega), replaceByte_dword _ _ (by omega)]

/-- All that the reserved bits can change is the size read from Extended Size. -/
theorem toMemoryDevice_withReserved :
    (raw.withReserved size speed configured).toMemoryDevice =
      { raw.toMemoryDevice with
        sizeBytes := decodeMemorySize (raw.word 8)
          ((raw.withReserved size speed configured).dword 24) } := by
  obtain ⟨b₁, b₂, b₃, heq, hspeed, hconfigured⟩ :=
    withReserved_eq_replaceByte raw size speed configured
  rw [heq] at hspeed hconfigured ⊢
  rw [replaceByte_dword _ _ (by omega)] at hspeed
  simp (disch := omega) [RawStructure.toMemoryDevice, hspeed, hconfigured]

theorem withReserved_dword_isSome :
    ((raw.withReserved size speed configured).dword 24).isSome = (raw.dword 24).isSome := by
  obtain ⟨b₁, b₂, b₃, heq, -, -⟩ := withReserved_eq_replaceByte raw size speed configured
  rw [heq, RawStructure.dword, RawStructure.field, RawStructure.dword, RawStructure.field]
  simp only [length_replaceByte]
  split
  · rfl
  · rfl

end

/-! ## Where the reserved bits show -/

/-- The sentinel of the size word refers to the Extended Size, and shows all of
it. -/
theorem decodeMemorySize_eq_iff {word x y : Option Nat} (hpresent : x.isSome = y.isSome) :
    decodeMemorySize word x = decodeMemorySize word y ↔ (word = some 0x7FFF → x = y) := by
  constructor
  · rintro h rfl
    cases x with
    | none =>
        cases y with
        | none => rfl
        | some n => cases hpresent
    | some m =>
        cases y with
        | none => cases hpresent
        | some n =>
            cases m with
            | zero =>
                cases n with
                | zero => rfl
                | succ n => simp [decodeMemorySize] at h
            | succ m =>
                cases n with
                | zero => simp [decodeMemorySize] at h
                | succ n => simpa [decodeMemorySize] using h
  · intro h
    cases word with
    | none => rfl
    | some w =>
        cases Classical.em (w = 0x7FFF) with
        | inl hw => rw [h (congrArg some hw)]
        | inr hw => simp [decodeMemorySize, hw]

section

variable (raw : RawStructure)

/-- Both structures are decoded to one memory device. -/
def SameDevice (raw raw' : RawStructure) : Prop :=
  ∃ d d', parseMemoryDevice raw = .ok d ∧ parseMemoryDevice raw' = .ok d' ∧ d' = d ∧
    d'.populated = d.populated

theorem sameDevice_withReserved_iff (size speed configured : Option Bool) :
    SameDevice raw (raw.withReserved size speed configured) ↔
      (raw.word 8 = some 0x7FFF →
        (raw.withReserved size speed configured).dword 24 = raw.dword 24) := by
  have hview := toMemoryDevice_withReserved raw size speed configured
  have hpresent := withReserved_dword_isSome raw size speed configured
  rw [← decodeMemorySize_eq_iff hpresent, SameDevice,
    exists_eq_ok_and_iff₂ (parseMemoryDevice_eq _) (parseMemoryDevice_eq _)]
  constructor
  · rintro ⟨heq, -⟩
    rw [hview] at heq
    exact congrArg MemoryDevice.sizeBytes heq
  · intro hsize
    have heq : (raw.withReserved size speed configured).toMemoryDevice =
        raw.toMemoryDevice := by
      rw [hview, hsize]
      rfl
    exact ⟨heq, congrArg MemoryDevice.populated heq⟩

/-- No reserved bit of the structure reaches the memory device it is decoded to,
and a size taken from Extended Size is below 2^31 MB. -/
structure ReservedHidden : Prop where
  same : ∀ size speed configured, SameDevice raw (raw.withReserved size speed configured)
  bounded : ∀ d n, parseMemoryDevice raw = .ok d → raw.word 8 = some 0x7FFF →
    d.sizeBytes = some n → n < 0x80000000 * (1024 * 1024)

theorem reservedHidden_iff :
    ReservedHidden raw ↔ ¬ (raw.word 8 = some 0x7FFF ∧ raw.dword 24 ≠ none) := by
  constructor
  · rintro ⟨hsame, -⟩ ⟨hword, hdword⟩
    have hset := (sameDevice_withReserved_iff raw (some true) none none).mp (hsame _ _ _) hword
    have hcleared :=
      (sameDevice_withReserved_iff raw (some false) none none).mp (hsame _ _ _) hword
    rw [ne_eq, dword_eq_none_iff] at hdword
    obtain ⟨x, hx⟩ := Option.ne_none_iff_exists'.mp hdword
    simp only [RawStructure.withReserved, RawStructure.withBit31, List.getD_eq_getElem?_getD, hx,
      Option.getD_some, replaceByte_dword_high hx] at hset hcleared
    rw [← hcleared, Option.some.injEq] at hset
    have hne := withBit7_true_ne_false x
    omega
  · intro h
    have hcut : raw.word 8 = some 0x7FFF → raw.dword 24 = none := by
      intro hword
      by_contra hdword
      exact h ⟨hword, hdword⟩
    constructor
    · intro size speed configured
      rw [sameDevice_withReserved_iff]
      intro hword
      have hpresent := withReserved_dword_isSome raw size speed configured
      rw [hcut hword] at hpresent ⊢
      simpa using hpresent
    · intro d n hd hword hsize
      obtain rfl : raw.toMemoryDevice = d := by simpa [parseMemoryDevice_eq] using hd
      simp [RawStructure.toMemoryDevice, hword, hcut hword, decodeMemorySize] at hsize

/-- The reserved bits are hidden in every structure but those whose size word refers
to a present Extended Size; there, a change of its reserved bit shows. -/
theorem reservedBits_hidden_iff :
    (ReservedHidden raw ↔ ¬ (raw.word 8 = some 0x7FFF ∧ raw.dword 24 ≠ none)) ∧
    ∀ size speed configured, SameDevice raw (raw.withReserved size speed configured) ↔
      (raw.word 8 = some 0x7FFF →
        (raw.withReserved size speed configured).dword 24 = raw.dword 24) :=
  ⟨reservedHidden_iff raw, sameDevice_withReserved_iff raw⟩

end

/-- A module of 1 MB by its Extended Size: with the reserved bit set it is reported
with more than 2^31 MB. -/
theorem not_reservedHidden_extendedSize :
    ¬ ∀ raw : RawStructure, raw.type = 17 → ReservedHidden raw := by
  intro h
  have hhidden := h ⟨17, 0, List.replicate 8 0 ++ [0xFF, 0x7F] ++ List.replicate 14 0 ++
    [0x01, 0x00, 0x00, 0x00], []⟩ rfl
  obtain ⟨heq, -⟩ := (exists_eq_ok_and_iff₂ (parseMemoryDevice_eq _) (parseMemoryDevice_eq _)).mp
    (hhidden.same (some true) none none)
  exact absurd (congrArg MemoryDevice.sizeBytes heq) (by decide)

end TruenasPydmi
