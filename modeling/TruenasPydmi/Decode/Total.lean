/-
  Decode/Total.lean --- the typed parsers never fail, and what they compute.

  A raw structure is read through three partial views: a byte, a little-endian
  field and a string of its formatted area.  Each record is a function of these
  views (`RawStructure.toSystem` and its companions), and each parser returns
  that record without ever raising (`parseSystem_eq` and its companions).  What
  is proved about the fields of a record is proved about the views.
-/
import TruenasPydmi.Structures

set_option autoImplicit false

namespace TruenasPydmi

open TruenasPydmi.Foundation TruenasPydmi.Python

/-! ## The views -/

namespace RawStructure

variable (raw : RawStructure)

/-- The byte at an offset of the formatted area. -/
def byte (o : Nat) : Option Nat := (raw.formatted[o]?).map UInt8.toNat

/-- The field of `width` bytes at an offset of the formatted area. -/
def field (width o : Nat) : Option Nat :=
  if o + width ≤ raw.formatted.length then
    some (fromLE (slice raw.formatted o (o + width)))
  else none

/-- The 16-bit field at an offset. -/
def word (o : Nat) : Option Nat := raw.field 2 o

/-- The 32-bit field at an offset. -/
def dword (o : Nat) : Option Nat := raw.field 4 o

/-- The 64-bit field at an offset. -/
def qword (o : Nat) : Option Nat := raw.field 8 o

/-- The string with a 1-based index; there is none with index zero. -/
def nthString (index : Nat) : Str := if index = 0 then [] else raw.strings.getD (index - 1) []

/-- The string that the index byte at an offset designates. -/
def string (o : Nat) : Str := raw.nthString (orZero (raw.byte o))

end RawStructure

section

variable (raw : RawStructure)

theorem u8_eq (o : Nat) : u8 raw.formatted o = .ok (raw.byte o) := by
  unfold u8 RawStructure.byte
  split
  · rename_i h
    have hb : raw.formatted[o]? = some raw.formatted[o] := List.getElem?_eq_getElem h
    rw [getItem_of_getElem? hb, hb]
    rfl
  · rename_i h
    rw [List.getElem?_eq_none (by omega)]
    rfl

theorem uint_eq (width o : Nat) : uint width raw.formatted o = .ok (raw.field width o) := by
  unfold uint RawStructure.field
  by_cases h : o + width ≤ raw.formatted.length
  · rw [if_neg (by omega), if_pos h, unpackFrom_of_le h]
    rfl
  · rw [if_pos (by omega), if_neg h]
    rfl

theorem u16_eq (o : Nat) : u16 raw.formatted o = .ok (raw.word o) := uint_eq raw 2 o

theorem u32_eq (o : Nat) : u32 raw.formatted o = .ok (raw.dword o) := uint_eq raw 4 o

theorem u64_eq (o : Nat) : u64 raw.formatted o = .ok (raw.qword o) := uint_eq raw 8 o

theorem str_eq (index : Nat) : str raw.strings index = .ok (raw.nthString index) := by
  unfold str RawStructure.nthString
  by_cases h0 : index = 0
  · simp [h0]
  · by_cases hlt : index > raw.strings.length
    · rw [if_pos (Or.inr hlt), if_neg h0, List.getD_eq_getElem?_getD,
        List.getElem?_eq_none (by omega)]
      rfl
    · have hs : raw.strings[index - 1]? = some raw.strings[index - 1] :=
        List.getElem?_eq_getElem (by omega)
      rw [if_neg (by simp [h0, hlt]), if_neg h0, getItem_of_getElem? hs,
        List.getD_eq_getElem?_getD, hs]
      rfl

end

/-! ## Type 0: BIOS -/

/-- The date of a release-date text. -/
def releaseDate (s : Str) : Option Date :=
  let s := strip s
  if s = [] then none
  else
    match s.splitOn '/' with
    | [_, _, year] =>
        (strptimeDate s
          (if year.length = 4 then [.month, .literal '/', .day, .literal '/', .year]
            else [.month, .literal '/', .day, .literal '/', .shortYear])).toOption
    | _ => none

theorem noneOnValueError_eq {α : Type} {x : Except BuiltinError α}
    (h : ∀ e, x = .error e → e = .valueError) : noneOnValueError x = .ok x.toOption := by
  cases x with
  | ok a => rfl
  | error e => rw [h e rfl]; rfl

theorem parseBiosReleaseDate_eq (s : Str) :
    parseBiosReleaseDate s = .ok (releaseDate s) := by
  unfold parseBiosReleaseDate releaseDate
  generalize strip s = s'
  simp only
  by_cases hs : s' = []
  · simp [hs]
  · rw [if_neg hs, if_neg hs]
    rcases s'.splitOn '/' with _ | ⟨a, _ | ⟨b, _ | ⟨year, _ | ⟨c, rest⟩⟩⟩⟩
    · simp
    · simp
    · simp
    · simp [getItem, noneOnValueError_eq fun e he => strptimeDate_error he]
    · simp

/-- What `parse_bios` returns. -/
def RawStructure.toBios (raw : RawStructure) : BIOSInfo where
  handle := raw.handle
  vendor := raw.string 0
  version := raw.string 1
  releaseDate := releaseDate (raw.string 4)
  releaseDateRaw := raw.string 4
  romSizeBytes := decodeRomSize (raw.byte 5) (raw.word 20)
  biosMajor := raw.byte 16
  biosMinor := raw.byte 17
  ecMajor := raw.byte 18
  ecMinor := raw.byte 19
  characteristics := orZero (raw.qword 6)
  characteristicsExtension := raw.formatted.drop 14

theorem parseBios_eq (raw : RawStructure) : parseBios raw = .ok raw.toBios := by
  simp [parseBios, u8_eq, u16_eq, u64_eq, str_eq, parseBiosReleaseDate_eq]
  rfl

/-! ## Type 1: System -/

/-- The UUID at formatted offsets 4 to 19, unless it is cut off or not set. -/
def RawStructure.uuid (raw : RawStructure) : Option UUID :=
  if 20 ≤ raw.formatted.length then
    if slice raw.formatted 4 20 = List.replicate 16 0 then none
    else (uuidOfBytesLE (slice raw.formatted 4 20)).toOption
  else none

theorem uuidOfBytesLE_error {b : Bytes} {e : BuiltinError} (h : uuidOfBytesLE b = .error e) :
    e = .valueError := by
  unfold uuidOfBytesLE at h
  split at h
  · simp at h
  · simpa using h.symm

theorem systemUuid_eq (raw : RawStructure) : systemUuid raw.formatted = .ok raw.uuid := by
  unfold systemUuid RawStructure.uuid
  by_cases h : 20 ≤ raw.formatted.length
  · have hlength : (slice raw.formatted 4 20).length = 16 := length_slice_of_le h
    have hfull : slice (slice raw.formatted 4 20) 0 16 = slice raw.formatted 4 20 := by
      rw [← hlength, slice_full]
    rw [if_pos h, if_pos h, parseUuid, if_neg (by omega)]
    simp only [hfull, noneOnValueError_eq fun e he => uuidOfBytesLE_error he]
    split <;> rfl
  · rw [if_neg h, if_neg h]
    rfl

/-- What `parse_system` returns. -/
def RawStructure.toSystem (raw : RawStructure) : SystemInfo where
  handle := raw.handle
  manufacturer := raw.string 0
  productName := raw.string 1
  version := raw.string 2
  serialNumber := raw.string 3
  uuid := raw.uuid
  wakeUpType := orZero (raw.byte 20)
  skuNumber := raw.string 21
  family := raw.string 22

theorem parseSystem_eq (raw : RawStructure) : parseSystem raw = .ok raw.toSystem := by
  simp only [parseSystem, u8_eq, str_eq, systemUuid_eq, ok_bind]
  rfl

/-! ## Types 2 and 3: Baseboard and chassis -/

/-- What `parse_baseboard` returns. -/
def RawStructure.toBaseboard (raw : RawStructure) : BaseboardInfo where
  handle := raw.handle
  manufacturer := raw.string 0
  product := raw.string 1
  version := raw.string 2
  serialNumber := raw.string 3
  assetTag := raw.string 4
  featureFlags := orZero (raw.byte 5)
  locationInChassis := raw.string 6
  chassisHandle := orZero (raw.word 7)
  boardType := orZero (raw.byte 9)

theorem parseBaseboard_eq (raw : RawStructure) : parseBaseboard raw = .ok raw.toBaseboard := by
  simp only [parseBaseboard, u8_eq, u16_eq, str_eq, ok_bind]
  rfl

/-- The offset of the SKU index: behind the contained-element table. -/
def RawStructure.skuOffset (raw : RawStructure) : Nat :=
  17 + orZero (raw.byte 15) * orZero (raw.byte 16)

/-- What `parse_chassis` returns. -/
def RawStructure.toChassis (raw : RawStructure) : ChassisInfo where
  handle := raw.handle
  manufacturer := raw.string 0
  type := orZero (raw.byte 1) &&& 0x7F
  typeLocked := truthy (orZero (raw.byte 1) &&& 0x80)
  version := raw.string 2
  serialNumber := raw.string 3
  assetTag := raw.string 4
  bootupState := orZero (raw.byte 5)
  powerSupplyState := orZero (raw.byte 6)
  thermalState := orZero (raw.byte 7)
  securityStatus := orZero (raw.byte 8)
  heightU := noneIf 0 (raw.byte 13)
  powerCords := noneIf 0 (raw.byte 14)
  skuNumber := raw.string raw.skuOffset

theorem parseChassis_eq (raw : RawStructure) : parseChassis raw = .ok raw.toChassis := by
  simp only [parseChassis, u8_eq, str_eq, ok_bind]
  rfl

/-! ## Types 4 and 7: Processor and cache -/

/-- What `parse_processor` returns. -/
def RawStructure.toProcessor (raw : RawStructure) : ProcessorInfo where
  handle := raw.handle
  socketDesignation := raw.string 0
  type := orZero (raw.byte 1)
  family := decodeFamily (orZero (raw.byte 2)) (raw.word 36)
  manufacturer := raw.string 3
  processorId := if raw.formatted.length ≥ 12 then slice raw.formatted 4 12 else []
  version := raw.string 12
  voltageRaw := orZero (raw.byte 13)
  externalClockMhz := noneIf 0 (raw.word 14)
  maxSpeedMhz := noneIf 0 (raw.word 16)
  currentSpeedMhz := noneIf 0 (raw.word 18)
  status := orZero (raw.byte 20)
  upgrade := orZero (raw.byte 21)
  l1CacheHandle := noneIf 0xFFFF (raw.word 22)
  l2CacheHandle := noneIf 0xFFFF (raw.word 24)
  l3CacheHandle := noneIf 0xFFFF (raw.word 26)
  serialNumber := raw.string 28
  assetTag := raw.string 29
  partNumber := raw.string 30
  coreCount := resolve (raw.byte 31) (raw.word 38)
  coresEnabled := resolve (raw.byte 32) (raw.word 40)
  threadCount := resolve (raw.byte 33) (raw.word 42)
  threadsEnabled := noneIf 0 (raw.word 44)
  characteristics := orZero (raw.word 34)

theorem parseProcessor_eq (raw : RawStructure) : parseProcessor raw = .ok raw.toProcessor := by
  simp only [parseProcessor, u8_eq, u16_eq, str_eq, ok_bind]
  rfl

/-- What `parse_cache` returns. -/
def RawStructure.toCache (raw : RawStructure) : CacheInfo where
  handle := raw.handle
  socketDesignation := raw.string 0
  configuration := orZero (raw.word 1)
  maxSizeBytes := decodeCacheSize (raw.word 3) (raw.dword 15)
  installedSizeBytes := decodeCacheSize (raw.word 5) (raw.dword 19)
  supportedSramTypes := orZero (raw.word 7)
  currentSramType := orZero (raw.word 9)
  speedNanoseconds := noneIf 0 (raw.byte 11)
  errorCorrection := orZero (raw.byte 12)
  systemCacheType := orZero (raw.byte 13)
  associativity := orZero (raw.byte 14)

theorem parseCache_eq (raw : RawStructure) : parseCache raw = .ok raw.toCache := by
  simp only [parseCache, u8_eq, u16_eq, u32_eq, str_eq, ok_bind]
  rfl

/-! ## Types 9, 16 and 17: Slot, memory array and memory device -/

/-- What `parse_system_slot` returns. -/
def RawStructure.toSystemSlot (raw : RawStructure) : SystemSlot where
  handle := raw.handle
  designation := raw.string 0
  type := orZero (raw.byte 1)
  busWidth := orZero (raw.byte 2)
  currentUsage := orZero (raw.byte 3)
  length := orZero (raw.byte 4)
  slotId := orZero (raw.word 5)
  characteristics1 := orZero (raw.byte 7)
  characteristics2 := orZero (raw.byte 8)
  segmentGroup := raw.word 9
  busNumber := raw.byte 11
  deviceFunction := raw.byte 12

theorem parseSystemSlot_eq (raw : RawStructure) :
    parseSystemSlot raw = .ok raw.toSystemSlot := by
  simp only [parseSystemSlot, u8_eq, u16_eq, str_eq, ok_bind]
  rfl

/-- What `parse_memory_array` returns. -/
def RawStructure.toMemoryArray (raw : RawStructure) : MemoryArray where
  handle := raw.handle
  location := orZero (raw.byte 0)
  use := orZero (raw.byte 1)
  errorCorrection := orZero (raw.byte 2)
  maxCapacityBytes := decodeCapacity (raw.dword 3) (raw.qword 11)
  errorInfoHandle := orZero (raw.word 7)
  deviceCount := orZero (raw.word 9)

theorem parseMemoryArray_eq (raw : RawStructure) :
    parseMemoryArray raw = .ok raw.toMemoryArray := by
  simp only [parseMemoryArray, u8_eq, u16_eq, u32_eq, u64_eq, ok_bind]
  rfl

/-- What `parse_memory_device` returns. -/
def RawStructure.toMemoryDevice (raw : RawStructure) : MemoryDevice where
  handle := raw.handle
  arrayHandle := orZero (raw.word 0)
  errorInfoHandle := orZero (raw.word 2)
  totalWidthBits := noneIf 0xFFFF (raw.word 4)
  dataWidthBits := noneIf 0xFFFF (raw.word 6)
  sizeBytes := decodeMemorySize (raw.word 8) (raw.dword 24)
  formFactor := orZero (raw.byte 10)
  deviceSet := orZero (raw.byte 11)
  locator := raw.string 12
  bankLocator := raw.string 13
  type := orZero (raw.byte 14)
  typeDetail := orZero (raw.word 15)
  speedMts := noneIf 0 (raw.word 17)
  manufacturer := raw.string 19
  serialNumber := raw.string 20
  assetTag := raw.string 21
  partNumber := raw.string 22
  rank := decodeRank (raw.byte 23)
  configuredSpeedMts := noneIf 0 (raw.word 28)
  minVoltageMv := noneIf 0 (raw.word 30)
  maxVoltageMv := noneIf 0 (raw.word 32)
  configuredVoltageMv := noneIf 0 (raw.word 34)
  memoryTechnology := orZero (raw.byte 36)
  operatingModeCapability := orZero (raw.word 37)
  moduleFirmwareVersion := raw.string 39
  moduleManufacturerId := orZero (raw.word 40)
  moduleProductId := orZero (raw.word 42)
  subsystemControllerManufacturerId := orZero (raw.word 44)
  subsystemControllerProductId := orZero (raw.word 46)
  nonVolatileSizeBytes := decodeExtendedSize (raw.qword 48)
  volatileSizeBytes := decodeExtendedSize (raw.qword 56)
  cacheSizeBytes := decodeExtendedSize (raw.qword 64)
  logicalSizeBytes := decodeExtendedSize (raw.qword 72)
  extendedSpeedMts := decodeExtendedSpeed (raw.dword 80)
  extendedConfiguredSpeedMts := decodeExtendedSpeed (raw.dword 84)

theorem parseMemoryDevice_eq (raw : RawStructure) :
    parseMemoryDevice raw = .ok raw.toMemoryDevice := by
  simp only [parseMemoryDevice, u8_eq, u16_eq, u32_eq, u64_eq, str_eq, ok_bind]
  rfl

/-! ## Types 38 and 43: IPMI and TPM -/

/-- What `parse_ipmi_device` returns. -/
def RawStructure.toIpmiDevice (raw : RawStructure) : IPMIDevice where
  handle := raw.handle
  interfaceType := orZero (raw.byte 0)
  specVersionMajor := (orZero (raw.byte 1) >>> 4) &&& 0x0F
  specVersionMinor := orZero (raw.byte 1) &&& 0x0F
  i2cSlaveAddress := orZero (raw.byte 2)
  nvStorageAddress := orZero (raw.byte 3)
  baseAddress := orZero (raw.qword 4)
  baseAddressModifier := orZero (raw.byte 12)
  interruptNumber := orZero (raw.byte 13)

theorem parseIpmiDevice_eq (raw : RawStructure) :
    parseIpmiDevice raw = .ok raw.toIpmiDevice := by
  simp only [parseIpmiDevice, u8_eq, u64_eq, ok_bind]
  rfl

/-- The vendor of a TPM: four ASCII bytes. -/
def RawStructure.vendorBytes (raw : RawStructure) : Bytes :=
  if raw.formatted.length ≥ 4 then slice raw.formatted 0 4 else []

/-- What `parse_tpm_device` returns. -/
def RawStructure.toTpmDevice (raw : RawStructure) : TPMDevice where
  handle := raw.handle
  vendorId := decodeLatin1 (rstripNul raw.vendorBytes)
  specMajor := orZero (raw.byte 4)
  specMinor := orZero (raw.byte 5)
  firmwareVersion1 := orZero (raw.dword 6)
  firmwareVersion2 := orZero (raw.dword 10)
  description := raw.string 14
  characteristics := orZero (raw.qword 15)

theorem parseTpmDevice_eq (raw : RawStructure) : parseTpmDevice raw = .ok raw.toTpmDevice := by
  simp only [parseTpmDevice, u8_eq, u32_eq, u64_eq, str_eq, ok_bind]
  rfl

end TruenasPydmi
