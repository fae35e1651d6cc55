/-
  Image/RoundTrip.lean --- every well-formed record is read back from its structure.

  The views of a written structure are the cells it was written from, so a parser
  that reads at the right offsets and widths gets back every field.  One lemma says
  this for each kind of field; the round trip of a record is those lemmas, one for
  each of its fields.
-/
import TruenasPydmi.Image.Records

set_option autoImplicit false

namespace TruenasPydmi

open TruenasPydmi.Foundation TruenasPydmi.Python

/-! ## The views of a written structure -/

section

variable {type handle o n : Nat} {texts : List Str} {cells : (Nat → Cell) → List Cell}

theorem field_build {width : Nat} (h : cellAt (cells (textCell texts)) o = some (.num width n))
    (hn : n < 256 ^ width) : (build type handle texts cells).field width o = some n := by
  obtain ⟨-, hlength⟩ := slice_image h
  exact (if_pos hlength).trans (congrArg some (fromLE_cell o width h hn))

theorem byte_eq_field (raw : RawStructure) (o : Nat) : raw.byte o = raw.field 1 o := by
  unfold RawStructure.byte RawStructure.field
  cases h : raw.formatted[o]? with
  | none =>
      rw [List.getElem?_eq_none_iff] at h
      exact (if_neg (by omega)).symm
  | some b =>
      obtain ⟨hlt, -⟩ := List.getElem?_eq_some_iff.mp h
      rw [if_pos (by omega), fromLE_slice_one h]
      rfl

theorem byte_build (h : cellAt (cells (textCell texts)) o = some (.num 1 n)) (hn : n < 0x100) :
    (build type handle texts cells).byte o = some n :=
  (byte_eq_field _ _).trans (field_build h hn)

theorem word_build (h : cellAt (cells (textCell texts)) o = some (.num 2 n)) (hn : n < 0x10000) :
    (build type handle texts cells).word o = some n :=
  field_build h hn

theorem dword_build (h : cellAt (cells (textCell texts)) o = some (.num 4 n))
    (hn : n < 0x100000000) : (build type handle texts cells).dword o = some n :=
  field_build h hn

theorem qword_build (h : cellAt (cells (textCell texts)) o = some (.num 8 n))
    (hn : n < 0x10000000000000000) : (build type handle texts cells).qword o = some n :=
  field_build h hn

theorem slice_build {width : Nat} {b : Bytes}
    (h : cellAt (cells (textCell texts)) o = some (.fixed width b)) (hb : b.length = width) :
    slice (build type handle texts cells).formatted o (o + width) = b ∧
      o + width ≤ (build type handle texts cells).formatted.length := by
  obtain ⟨hslice, hlength⟩ := slice_image h
  exact ⟨hslice.trans (Cell.image_fixed hb), hlength⟩

theorem bytes_build {b : Bytes} (h : cellAt (cells (textCell texts)) o = some (.bytes b)) :
    slice (build type handle texts cells).formatted o (o + b.length) = b :=
  (slice_image h).1

theorem string_build {i : Nat} {s : Str}
    (h : cellAt (cells (textCell texts)) o = some (textCell texts i)) (hi : texts[i]? = some s)
    (hlength : texts.length < 0x100) : (build type handle texts cells).string o = s := by
  have hle := rank_le_length present texts i
  rw [RawStructure.string, byte_build h (by omega), orZero_some, RawStructure.nthString]
  cases hs : present s with
  | false =>
      rw [rank_eq_zero _ hi hs, if_pos rfl]
      simpa [present] using hs
  | true =>
      obtain ⟨hpos, hget⟩ := getElem?_filter_rank present hi hs
      rw [if_neg (by omega), List.getD_eq_getElem?_getD]
      exact (congrArg (Option.getD · []) hget).trans rfl

theorem orZero_build {width : Nat}
    (h : cellAt (cells (textCell texts)) o = some (.num width n)) (hn : n < 256 ^ width) :
    orZero ((build type handle texts cells).field width o) = n :=
  congrArg orZero (field_build h hn)

section

variable {v : Nat} {x : Option Nat}

theorem noneIf_build {width : Nat}
    (h : cellAt (cells (textCell texts)) o = some (.num width (x.getD v)))
    (hx : Within (256 ^ width) v x) (hv : v < 256 ^ width) :
    noneIf v ((build type handle texts cells).field width o) = x := by
  rw [field_build h (hx.getD_lt hv), hx.noneIf_getD]

theorem orZero_lt {bound : Nat} (hx : ∀ n ∈ x, n < bound) (hpos : 0 < bound) :
    orZero x < bound := by
  cases x with
  | none => exact hpos
  | some n => exact hx n rfl

theorem some_orZero (hx : x ≠ none) : some (orZero x) = x := by
  cases x with
  | none => exact absurd rfl hx
  | some n => rfl

end

end

/-! ## Sizes and counts -/

section

variable {type handle o o' : Nat} {texts : List Str} {cells : (Nat → Cell) → List Cell}
  {x : Option Nat}

theorem cacheSize_build (hx : CacheSize x)
    (h : cellAt (cells (textCell texts)) o = some (.num 2 (storeCacheSize x).1))
    (h' : cellAt (cells (textCell texts)) o' = some (.num 4 (storeCacheSize x).2)) :
    decodeCacheSize ((build type handle texts cells).word o)
      ((build type handle texts cells).dword o') = x := by
  obtain ⟨hlt, hlt'⟩ := storeCacheSize_lt hx
  rw [word_build h hlt, dword_build h' hlt', decodeCacheSize_store hx]

theorem capacity_build (hx : ∀ n ∈ x, n < 0x10000000000000000)
    (h : cellAt (cells (textCell texts)) o = some (.num 4 (storeCapacity x).1))
    (h' : cellAt (cells (textCell texts)) o' = some (.num 8 (storeCapacity x).2)) :
    decodeCapacity ((build type handle texts cells).dword o)
      ((build type handle texts cells).qword o') = x := by
  obtain ⟨hlt, hlt'⟩ := storeCapacity_lt hx
  rw [dword_build h hlt, qword_build h' hlt', decodeCapacity_store]

theorem memorySize_build (hx : MemorySize x)
    (h : cellAt (cells (textCell texts)) o = some (.num 2 (storeMemorySize x).1))
    (h' : cellAt (cells (textCell texts)) o' = some (.num 4 (storeMemorySize x).2)) :
    decodeMemorySize ((build type handle texts cells).word o)
      ((build type handle texts cells).dword o') = x := by
  obtain ⟨hlt, hlt'⟩ := storeMemorySize_lt hx
  rw [word_build h hlt, dword_build h' hlt', decodeMemorySize_store hx]

theorem count_build (hx : ∀ n ∈ x, n < 0x10000)
    (h : cellAt (cells (textCell texts)) o = some (.num 1 (storeCount x).1))
    (h' : cellAt (cells (textCell texts)) o' = some (.num 2 (storeCount x).2)) :
    resolve ((build type handle texts cells).field 1 o)
      ((build type handle texts cells).word o') = x := by
  have hlt : (storeCount x).1 < 0x100 ∧ (storeCount x).2 < 0x10000 := by
    cases x with
    | none => exact ⟨by decide, by decide⟩
    | some n => exact ⟨show 0xFF < 0x100 by decide, hx n rfl⟩
  rw [field_build h hlt.1, word_build h' hlt.2, resolve_storeCount]

theorem extendedSpeed_build (hx : Within 0x80000000 0 x)
    (h : cellAt (cells (textCell texts)) o = some (.num 4 (x.getD 0))) :
    decodeExtendedSpeed ((build type handle texts cells).dword o) = x := by
  have hlt := hx.getD_lt (by decide)
  rw [dword_build h (by omega), decodeExtendedSpeed_getD hx]

theorem rank_build (hx : Within 0x10 0 x)
    (h : cellAt (cells (textCell texts)) o = some (.num 1 (x.getD 0))) :
    decodeRank ((build type handle texts cells).field 1 o) = x := by
  have hlt := hx.getD_lt (by decide)
  rw [field_build h (by omega), decodeRank_getD hx]

end

/-! ## The records -/

/-- The bytes behind the characteristics are read as fields too. -/
theorem byte_of_extension (raw : RawStructure) (k : Nat) :
    raw.byte (14 + k) = (raw.formatted.drop 14)[k]?.map UInt8.toNat := by
  rw [List.getElem?_drop, RawStructure.byte]

theorem romSizeWord_extension (raw : RawStructure) :
    romSizeWord (raw.formatted.drop 14) = raw.word 20 := by
  have hslice : slice (raw.formatted.drop 14) 6 8 = slice raw.formatted 20 (20 + 2) := by
    rw [slice, slice, List.take_drop, List.drop_drop]
  unfold romSizeWord RawStructure.word RawStructure.field
  rw [hslice, List.length_drop]
  by_cases h : 20 + 2 ≤ raw.formatted.length
  · rw [if_pos h, if_pos (by omega)]
  · rw [if_neg h, if_neg (by omega)]

theorem decodeRomSize_store {extended x : Option Nat} (h : RomSize extended x)
    (hc : x = none → decodeRomSize (some 0xFF) extended = none) :
    storeRomSize extended x < 0x100 ∧
      decodeRomSize (some (storeRomSize extended x)) extended = x := by
  unfold storeRomSize
  split
  · rename_i heq
    exact ⟨by decide, heq⟩
  · rename_i hne
    rcases h with rfl | ⟨k, hk, rfl⟩ | rfl
    · exact absurd (hc rfl) hne
    · have hstore : (k + 1) * 65536 / 65536 - 1 = k := by omega
      rw [orZero_some, hstore]
      exact ⟨by omega, decodeRomSize_legacy (by omega)⟩
    · exact absurd rfl hne

theorem BIOSInfo.toBios_toRaw {b : BIOSInfo} (h : b.WellFormed) (hc : b.Complete) :
    b.toRaw.toBios = b := by
  have hdrop : b.toRaw.formatted.drop 14 = b.characteristicsExtension := by
    have hslice : slice b.toRaw.formatted 14 (14 + b.characteristicsExtension.length) =
        b.characteristicsExtension := bytes_build rfl
    have hlength : b.toRaw.formatted.length = 14 + b.characteristicsExtension.length := by
      refine (length_image _).trans ?_
      simp [textCell, Cell.size]
      omega
    rw [slice, List.take_of_length_le hlength.le] at hslice
    exact hslice
  have hword : b.toRaw.word 20 = romSizeWord b.characteristicsExtension := by
    rw [← romSizeWord_extension, hdrop]
  have hbyte : ∀ k, b.toRaw.byte (14 + k) =
      b.characteristicsExtension[k]?.map UInt8.toNat := fun k => by
    rw [byte_of_extension, hdrop]
  obtain ⟨hlt, hrom⟩ := decodeRomSize_store h.romSize hc
  have hsize : b.toRaw.byte 5 = some _ := byte_build rfl hlt
  have hdate : b.toRaw.string 4 = b.releaseDateRaw := string_build rfl rfl (by simp)
  unfold RawStructure.toBios
  rw [hdrop, hword, hsize, hrom, hdate, ← h.releaseDate]
  cases b
  rw [BIOSInfo.mk.injEq]
  exact ⟨rfl, string_build rfl rfl (by simp), string_build rfl rfl (by simp), rfl, rfl, rfl,
    (hbyte 2).trans h.biosMajor.symm, (hbyte 3).trans h.biosMinor.symm,
    (hbyte 4).trans h.ecMajor.symm, (hbyte 5).trans h.ecMinor.symm,
    orZero_build rfl h.characteristics, rfl⟩

theorem SystemInfo.toSystem_toRaw {s : SystemInfo} (h : s.WellFormed) :
    s.toRaw.toSystem = s := by
  have huuid : s.toRaw.uuid = s.uuid := by
    obtain ⟨hslice, hlength⟩ : slice s.toRaw.formatted 4 20 = storeUuid s.uuid ∧
        20 ≤ s.toRaw.formatted.length := slice_build rfl (length_storeUuid _)
    rw [RawStructure.uuid, if_pos hlength, hslice, uuid_storeUuid h.uuid]
  cases s
  simp only [RawStructure.toSystem, byte_eq_field, SystemInfo.mk.injEq]
  exact ⟨rfl, string_build rfl rfl (by simp), string_build rfl rfl (by simp),
    string_build rfl rfl (by simp), string_build rfl rfl (by simp), huuid,
    orZero_build rfl h.wakeUpType, string_build rfl rfl (by simp),
    string_build rfl rfl (by simp)⟩

theorem BaseboardInfo.toBaseboard_toRaw {b : BaseboardInfo} (h : b.WellFormed) :
    b.toRaw.toBaseboard = b := by
  cases b
  simp only [RawStructure.toBaseboard, byte_eq_field, BaseboardInfo.mk.injEq]
  exact ⟨rfl, string_build rfl rfl (by simp), string_build rfl rfl (by simp),
    string_build rfl rfl (by simp), string_build rfl rfl (by simp),
    string_build rfl rfl (by simp), orZero_build rfl h.featureFlags,
    string_build rfl rfl (by simp), orZero_build rfl h.chassisHandle,
    orZero_build rfl h.boardType⟩

theorem ChassisInfo.toChassis_toRaw {c : ChassisInfo} (h : c.WellFormed) :
    c.toRaw.toChassis = c := by
  have htype : orZero (c.toRaw.byte 1) = withFlag 7 c.typeLocked c.type :=
    congrArg orZero (byte_build rfl (Nat.or_lt_two_pow (n := 8) (by split <;> decide)
      (Nat.lt_trans h.type (by decide))))
  obtain ⟨hlow, hlocked⟩ := chassisByte h.type c.typeLocked
  -- there are no contained elements, so the SKU stands right behind their table
  have hsku : c.toRaw.skuOffset = 17 := by
    have hn : orZero (c.toRaw.byte 15) = 0 := congrArg orZero (byte_build rfl (by decide))
    rw [RawStructure.skuOffset, hn, Nat.zero_mul]
  have hskuNumber : c.toRaw.string 17 = c.skuNumber := string_build rfl rfl (by simp)
  unfold RawStructure.toChassis
  rw [hsku, hskuNumber, htype, hlow, hlocked]
  cases c
  simp only [byte_eq_field]
  rw [ChassisInfo.mk.injEq]
  exact ⟨rfl, string_build rfl rfl (by simp), rfl, rfl, string_build rfl rfl (by simp),
    string_build rfl rfl (by simp), string_build rfl rfl (by simp),
    orZero_build rfl h.bootupState, orZero_build rfl h.powerSupplyState,
    orZero_build rfl h.thermalState, orZero_build rfl h.securityStatus,
    noneIf_build rfl h.heightU (by decide), noneIf_build rfl h.powerCords (by decide),
    rfl⟩

theorem ProcessorInfo.toProcessor_toRaw {p : ProcessorInfo} (h : p.WellFormed)
    (hc : p.Complete) : p.toRaw.toProcessor = p := by
  have hlength : p.processorId.length = 8 := h.processorId.resolve_left hc
  obtain ⟨hslice, hle⟩ : slice p.toRaw.formatted 4 12 = p.processorId ∧
      12 ≤ p.toRaw.formatted.length := slice_build rfl hlength
  have hfamily : decodeFamily (orZero (p.toRaw.byte 2)) (p.toRaw.word 36) = p.family := by
    have hsmall : orZero (p.toRaw.byte 2) = 0xFE :=
      congrArg orZero (byte_build rfl (by decide))
    have hbig : p.toRaw.word 36 = some p.family := word_build rfl h.family
    rw [hsmall, hbig]
    rfl
  unfold RawStructure.toProcessor
  rw [if_pos hle, hslice, hfamily]
  cases p
  simp only [byte_eq_field]
  rw [ProcessorInfo.mk.injEq]
  exact ⟨rfl, string_build rfl rfl (by simp), orZero_build rfl h.type, rfl,
    string_build rfl rfl (by simp), rfl, string_build rfl rfl (by simp),
    orZero_build rfl h.voltageRaw, noneIf_build rfl h.externalClockMhz (by decide),
    noneIf_build rfl h.maxSpeedMhz (by decide),
    noneIf_build rfl h.currentSpeedMhz (by decide), orZero_build rfl h.status,
    orZero_build rfl h.upgrade, noneIf_build rfl h.l1CacheHandle (by decide),
    noneIf_build rfl h.l2CacheHandle (by decide),
    noneIf_build rfl h.l3CacheHandle (by decide), string_build rfl rfl (by simp),
    string_build rfl rfl (by simp), string_build rfl rfl (by simp),
    count_build h.coreCount rfl rfl, count_build h.coresEnabled rfl rfl,
    count_build h.threadCount rfl rfl, noneIf_build rfl h.threadsEnabled (by decide),
    orZero_build rfl h.characteristics⟩

theorem CacheInfo.toCache_toRaw {c : CacheInfo} (h : c.WellFormed) : c.toRaw.toCache = c := by
  cases c
  simp only [RawStructure.toCache, byte_eq_field, CacheInfo.mk.injEq]
  exact ⟨rfl, string_build rfl rfl (by simp), orZero_build rfl h.configuration,
    cacheSize_build h.maxSize rfl rfl, cacheSize_build h.installedSize rfl rfl,
    orZero_build rfl h.supportedSramTypes, orZero_build rfl h.currentSramType,
    noneIf_build rfl h.speedNanoseconds (by decide), orZero_build rfl h.errorCorrection,
    orZero_build rfl h.systemCacheType, orZero_build rfl h.associativity⟩

theorem SystemSlot.toSystemSlot_toRaw {s : SystemSlot} (h : s.WellFormed) (hc : s.Complete) :
    s.toRaw.toSystemSlot = s := by
  cases s
  simp only [RawStructure.toSystemSlot, byte_eq_field, SystemSlot.mk.injEq]
  exact ⟨rfl, string_build rfl rfl (by simp), orZero_build rfl h.type,
    orZero_build rfl h.busWidth, orZero_build rfl h.currentUsage,
    orZero_build rfl h.length, orZero_build rfl h.slotId,
    orZero_build rfl h.characteristics1, orZero_build rfl h.characteristics2,
    (word_build rfl (orZero_lt h.segmentGroup (by decide))).trans (some_orZero hc.segmentGroup),
    (field_build rfl (orZero_lt h.busNumber (by decide))).trans (some_orZero hc.busNumber),
    (field_build rfl (orZero_lt h.deviceFunction (by decide))).trans
      (some_orZero hc.deviceFunction)⟩

theorem MemoryArray.toMemoryArray_toRaw {a : MemoryArray} (h : a.WellFormed) :
    a.toRaw.toMemoryArray = a := by
  cases a
  simp only [RawStructure.toMemoryArray, byte_eq_field, MemoryArray.mk.injEq]
  exact ⟨rfl, orZero_build rfl h.location, orZero_build rfl h.use,
    orZero_build rfl h.errorCorrection, capacity_build h.maxCapacity rfl rfl,
    orZero_build rfl h.errorInfoHandle, orZero_build rfl h.deviceCount⟩

set_option maxRecDepth 2000 in
theorem MemoryDevice.toMemoryDevice_toRaw {d : MemoryDevice} (h : d.WellFormed) :
    d.toRaw.toMemoryDevice = d := by
  cases d
  simp only [RawStructure.toMemoryDevice, byte_eq_field, MemoryDevice.mk.injEq]
  exact ⟨rfl, orZero_build rfl h.arrayHandle, orZero_build rfl h.errorInfoHandle,
    noneIf_build rfl h.totalWidthBits (by decide),
    noneIf_build rfl h.dataWidthBits (by decide), memorySize_build h.size rfl rfl,
    orZero_build rfl h.formFactor, orZero_build rfl h.deviceSet,
    string_build rfl rfl (by simp), string_build rfl rfl (by simp),
    orZero_build rfl h.type, orZero_build rfl h.typeDetail,
    noneIf_build rfl h.speedMts (by decide), string_build rfl rfl (by simp),
    string_build rfl rfl (by simp), string_build rfl rfl (by simp),
    string_build rfl rfl (by simp), rank_build h.rank rfl,
    noneIf_build rfl h.configuredSpeedMts (by decide),
    noneIf_build rfl h.minVoltageMv (by decide),
    noneIf_build rfl h.maxVoltageMv (by decide),
    noneIf_build rfl h.configuredVoltageMv (by decide),
    orZero_build rfl h.memoryTechnology, orZero_build rfl h.operatingModeCapability,
    string_build rfl rfl (by simp), orZero_build rfl h.moduleManufacturerId,
    orZero_build rfl h.moduleProductId,
    orZero_build rfl h.subsystemControllerManufacturerId,
    orZero_build rfl h.subsystemControllerProductId,
    noneIf_build rfl h.nonVolatileSize (by decide),
    noneIf_build rfl h.volatileSize (by decide),
    noneIf_build rfl h.cacheSize (by decide),
    noneIf_build rfl h.logicalSize (by decide), extendedSpeed_build h.extendedSpeedMts rfl,
    extendedSpeed_build h.extendedConfiguredSpeedMts rfl⟩

theorem IPMIDevice.toIpmiDevice_toRaw {d : IPMIDevice} (h : d.WellFormed) :
    d.toRaw.toIpmiDevice = d := by
  have hversion : orZero (d.toRaw.byte 1) = 0x10 * d.specVersionMajor + d.specVersionMinor := by
    have hmajor := h.specVersionMajor
    have hminor := h.specVersionMinor
    exact congrArg orZero (byte_build rfl (by omega))
  obtain ⟨hmajor, hminor⟩ := versionByte h.specVersionMajor h.specVersionMinor
  unfold RawStructure.toIpmiDevice
  rw [hversion, hmajor, hminor]
  cases d
  simp only [byte_eq_field]
  rw [IPMIDevice.mk.injEq]
  exact ⟨rfl, orZero_build rfl h.interfaceType, rfl, rfl,
    orZero_build rfl h.i2cSlaveAddress, orZero_build rfl h.nvStorageAddress,
    orZero_build rfl h.baseAddress, orZero_build rfl h.baseAddressModifier,
    orZero_build rfl h.interruptNumber⟩

theorem TPMDevice.toTpmDevice_toRaw {d : TPMDevice} (h : d.WellFormed) :
    d.toRaw.toTpmDevice = d := by
  have hvendor : decodeLatin1 (rstripNul d.toRaw.vendorBytes) = d.vendorId := by
    obtain ⟨hslice, hlength⟩ : slice d.toRaw.formatted 0 4 = storeVendor d.vendorId ∧
        4 ≤ d.toRaw.formatted.length := slice_build rfl (length_storeVendor h.vendorId)
    rw [RawStructure.vendorBytes, if_pos hlength, hslice, decode_storeVendor h.vendorId]
  unfold RawStructure.toTpmDevice
  rw [hvendor]
  cases d
  simp only [byte_eq_field]
  rw [TPMDevice.mk.injEq]
  exact ⟨rfl, rfl, orZero_build rfl h.specMajor, orZero_build rfl h.specMinor,
    orZero_build rfl h.firmwareVersion1, orZero_build rfl h.firmwareVersion2,
    string_build rfl rfl (by simp), orZero_build rfl h.characteristics⟩

end TruenasPydmi
