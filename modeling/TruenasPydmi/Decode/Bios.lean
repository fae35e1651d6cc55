/-
  Decode/Bios.lean --- which bytes of a Type 0 structure reach which field.

  The formatted area of a BIOS structure grew with the standard: up to two
  extension bytes of the characteristics at offsets 14 and 15, version bytes at 16
  to 19, the extended ROM size at 20 and 21.  `parse_bios` takes everything from
  offset 14 on for the extension bytes.  While a structure ends there no byte is
  decoded into two fields, and `bios_bytesApart_iff` says that this is the only
  case: from a seventeenth byte on the later bytes stand in the extension as well.
  The decoded names look at the first two bytes of the extension only.
-/
import TruenasPydmi.Decode.Features
import TruenasPydmi.Decode.Local

set_option autoImplicit false

namespace TruenasPydmi

open TruenasPydmi.Foundation TruenasPydmi.Python

/-! ## What the fields should be read from -/

/-- What `parse_bios` reads while the extension is one or two bytes long. -/
def biosLayout : Layout String :=
  [("handle", []), ("vendor", [span 0 1]), ("version", [span 1 1]),
    ("release_date", [span 4 1]), ("release_date_raw", [span 4 1]),
    ("rom_size_bytes", [span 5 1, span 20 2]), ("bios_major", [span 16 1]),
    ("bios_minor", [span 17 1]), ("ec_major", [span 18 1]), ("ec_minor", [span 19 1]),
    ("characteristics", [span 6 8]), ("characteristics_extension", [span 14 2])]

/-- The release date and its text come from one string: they count as one
field. -/
def biosGroup (name : String) : String :=
  if name = "release_date_raw" then "release_date" else name

section

variable (raw : RawStructure) (i : Nat) (b : UInt8)

@[simp] theorem replaceByte_drop {o : Nat} (h : i < o) :
    (raw.replaceByte i b).formatted.drop o = raw.formatted.drop o :=
  List.drop_set_of_lt h

theorem toBios_spares (hi : i < 16) : Spares i biosLayout raw.toBios.asFields
    (raw.replaceByte i b).toBios.asFields := by
  simp +contextual (disch := omega) [biosLayout, BIOSInfo.asFields, RawStructure.toBios]

end

/-! ## The structures that keep their bytes apart -/

theorem exists_ne_byte (x : UInt8) : ∃ b : UInt8, b ≠ x := by
  cases Classical.em (x = 0) with
  | inl h => exact ⟨1, by rw [h]; decide⟩
  | inr h => exact ⟨0, Ne.symm h⟩

theorem toValue_ne {x y : Option Nat} (h : x ≠ y) : toValue x ≠ toValue y := by
  intro heq
  cases x with
  | none =>
      cases y with
      | none => exact h rfl
      | some n => cases heq
  | some m =>
      cases y with
      | none => cases heq
      | some n =>
          cases heq
          exact h rfl

section

variable {raw : RawStructure} {i : Nat} {b : UInt8}

theorem replaceByte_byte_ne (hi : i < raw.formatted.length) (hb : b ≠ raw.formatted[i]) :
    raw.byte i ≠ (raw.replaceByte i b).byte i := by
  rw [RawStructure.byte, RawStructure.byte, getElem?_replaceByte raw b hi,
    List.getElem?_eq_getElem hi]
  simpa [UInt8.toNat_inj] using hb.symm

theorem replaceByte_drop_ne {o : Nat} (hi : i < raw.formatted.length) (ho : o ≤ i)
    (hb : b ≠ raw.formatted[i]) :
    raw.formatted.drop o ≠ (raw.replaceByte i b).formatted.drop o := by
  intro h
  have hat := congrArg (fun xs : Bytes => xs[i - o]?) h
  simp only [List.getElem?_drop, Nat.add_sub_cancel' ho, getElem?_replaceByte raw b hi,
    List.getElem?_eq_getElem hi, Option.some.injEq] at hat
  exact hb hat.symm

end

section

variable (raw : RawStructure)

/-- A byte is decoded into one field exactly in the structures that end with their
extension bytes. -/
theorem bios_byteLocalAt_iff :
    ByteLocalAt parseBios BIOSInfo.asFields biosGroup raw ↔ raw.formatted.length ≤ 16 := by
  constructor
  · intro h
    by_contra hlong
    have hi : 16 < raw.formatted.length := by omega
    obtain ⟨b, hb⟩ := exists_ne_byte raw.formatted[16]
    have hgroup := (exists_eq_ok_and_iff₂ (parseBios_eq _) (parseBios_eq _)).mp (h 16 b hi)
    -- both the major version and the extension hold byte 16
    have hmajor : "bios_major" ∈
        changed raw.toBios.asFields (raw.replaceByte 16 b).toBios.asFields :=
      mem_changed_of_getElem? (k := 6) rfl rfl (toValue_ne (replaceByte_byte_ne hi hb))
    have hextension : "characteristics_extension" ∈
        changed raw.toBios.asFields (raw.replaceByte 16 b).toBios.asFields := by
      refine mem_changed_of_getElem? (k := 11) rfl rfl fun heq => ?_
      exact replaceByte_drop_ne hi (by omega) hb (Value.bytes.inj heq)
    exact absurd (hgroup _ hmajor _ hextension) (by decide)
  · intro hshort i b hi
    refine ⟨_, _, parseBios_eq _, parseBios_eq _, fun m hm n hn => ?_⟩
    have hsep : biosLayout.Separate biosGroup := by decide
    exact (toBios_spares raw i b (by omega)).group_eq_of_mem_changed hsep hm hn

/-- The extension holds the bytes at offsets 14 and 15 and no others. -/
def ExtensionExact : Prop :=
  ∃ info, parseBios raw = .ok info ∧ info.characteristicsExtension = slice raw.formatted 14 16

theorem bios_extensionExact_iff : ExtensionExact raw ↔ raw.formatted.length ≤ 16 := by
  rw [ExtensionExact, exists_eq_ok_and_iff (parseBios_eq raw)]
  constructor
  · intro hextension
    have hlength := congrArg List.length hextension
    simp only [RawStructure.toBios, List.length_drop, length_slice] at hlength
    omega
  · intro hshort
    rw [RawStructure.toBios, slice, List.take_of_length_le hshort]

/-- No version byte and no byte of the extended ROM size reaches the extension. -/
def ExtensionSpared : Prop :=
  ∀ (i : Nat) (b : UInt8), 16 ≤ i → i ≤ 21 → i < raw.formatted.length → ∃ before after,
    parseBios raw = .ok before ∧ parseBios (raw.replaceByte i b) = .ok after ∧
    after.characteristicsExtension = before.characteristicsExtension

theorem bios_extensionSpared_iff : ExtensionSpared raw ↔ raw.formatted.length ≤ 16 := by
  constructor
  · intro h
    by_contra hlong
    have hi : 16 < raw.formatted.length := by omega
    obtain ⟨b, hb⟩ := exists_ne_byte raw.formatted[16]
    have heq := (exists_eq_ok_and_iff₂ (parseBios_eq _) (parseBios_eq _)).mp
      (h 16 b (by omega) (by omega) hi)
    exact replaceByte_drop_ne hi (by omega) hb heq.symm
  · intro hshort i b hlo hhi hi
    omega

end

/-! ## The decoded names -/

/-- The decoded names are a function of the bytes at offsets 6 to 15. -/
def DecodedExact (raw : RawStructure) : Prop :=
  ∀ raw' : RawStructure, (∀ o, 6 ≤ o → o ≤ 15 → raw'.formatted[o]? = raw.formatted[o]?) →
    ∃ info info', parseBios raw = .ok info ∧ parseBios raw' = .ok info' ∧
      info'.characteristicsDecoded = info.characteristicsDecoded

section

variable {raw raw' : RawStructure}

/-- A field is a function of its bytes. -/
theorem field_congr {width o : Nat} (hwidth : 0 < width)
    (h : ∀ k, o ≤ k → k < o + width → raw'.formatted[k]? = raw.formatted[k]?) :
    raw'.field width o = raw.field width o := by
  have hagree : Agree raw'.formatted o raw.formatted o width :=
    fun k hk => h (o + k) (by omega) (by omega)
  have hslice : slice raw'.formatted o (o + width) = slice raw.formatted o (o + width) :=
    hagree.slice_eq (a := 0) (Nat.le_refl width)
  have hlast := h (o + width - 1) (by omega) (by omega)
  have hlength : ∀ xs : Bytes, xs[o + width - 1]? = none ↔ ¬ o + width ≤ xs.length := by
    intro xs
    rw [List.getElem?_eq_none_iff]
    omega
  have hpresent : o + width ≤ raw'.formatted.length ↔ o + width ≤ raw.formatted.length := by
    rw [← not_iff_not, ← hlength, ← hlength, hlast]
  rw [RawStructure.field, RawStructure.field, hslice]
  exact if_congr hpresent rfl rfl

theorem bios_decodedExact (raw : RawStructure) : DecodedExact raw := by
  intro raw' h
  refine ⟨_, _, parseBios_eq _, parseBios_eq _, ?_⟩
  have hqword : raw'.qword 6 = raw.qword 6 :=
    field_congr (by decide) fun k hlo hhi => h k hlo (by omega)
  have hbyte : ∀ k, k ≤ 1 →
      (raw'.formatted.drop 14).getD k 0 = (raw.formatted.drop 14).getD k 0 := by
    intro k hk
    rw [List.getD_eq_getElem?_getD, List.getD_eq_getElem?_getD, List.getElem?_drop,
      List.getElem?_drop, h (14 + k) (by omega) (by omega)]
  rw [BIOSInfo.characteristicsDecoded, BIOSInfo.characteristicsDecoded,
    biosCharacteristicsNames_eq, biosCharacteristicsNames_eq, extensionNames, extensionNames]
  simp only [RawStructure.toBios, hqword, hbyte 0 (by omega), hbyte 1 (by omega)]

end

/-! ## All of it -/

/-- The feature bytes of a BIOS record are kept apart from its version and size
bytes. -/
structure BytesApart (raw : RawStructure) : Prop where
  byteLocal : ByteLocalAt parseBios BIOSInfo.asFields biosGroup raw
  extensionExact : ExtensionExact raw
  extensionSpared : ExtensionSpared raw
  decodedExact : DecodedExact raw

/-- The feature bytes are kept apart exactly in the structures that have no bytes
behind the extension. -/
theorem bios_bytesApart_iff (raw : RawStructure) :
    BytesApart raw ↔ raw.formatted.length ≤ 16 := by
  constructor
  · intro h
    exact (bios_extensionExact_iff raw).mp h.extensionExact
  · intro hshort
    exact ⟨(bios_byteLocalAt_iff raw).mpr hshort, (bios_extensionExact_iff raw).mpr hshort,
      (bios_extensionSpared_iff raw).mpr hshort, bios_decodedExact raw⟩

/-- A BIOS structure that ends with its major version: the version byte stands in
the extension as well. -/
theorem not_bytesApart_majorVersion :
    ¬ ∀ raw : RawStructure, raw.type = 0 → BytesApart raw := by
  intro h
  have hapart := h ⟨0, 0, List.replicate 17 0, []⟩ rfl
  have heq := (exists_eq_ok_and_iff₂ (parseBios_eq _) (parseBios_eq _)).mp
    (hapart.extensionSpared 16 1 (by decide) (by decide) (by decide))
  exact absurd heq (by decide)

end TruenasPydmi
