/-
  Structures.lean --- `private/structures.py`: the typed parsers.

  Offsets are relative to the formatted area, as in the source.  Every read of a
  byte, of a field and of a string is the partial operation the source uses, so a
  parser is a computation in `Except BuiltinError`; that none of them ever fails
  is a theorem (`Decode/Total.lean`) and no assumption.
-/
import TruenasPydmi.Models

set_option autoImplicit false

namespace TruenasPydmi

open TruenasPydmi.Foundation TruenasPydmi.Python

/-! ## Reading a field -/

/-- `_str`: resolve a 1-based string index; zero means no string. -/
def str (strings : List Str) (index : Nat) : Except BuiltinError Str :=
  if index = 0 ∨ index > strings.length then return []
  else getItem strings (index - 1)

/-- `_u8`. -/
def u8 (buf : Bytes) (offset : Nat) : Except BuiltinError (Option Nat) :=
  if offset < buf.length then do
    let b ← getItem buf offset
    return some b.toNat
  else return none

/-- What `_u16`, `_u32` and `_u64` have in common: a field of `width` bytes, or
`None` when the buffer does not hold all of them. -/
def uint (width : Nat) (buf : Bytes) (offset : Nat) : Except BuiltinError (Option Nat) :=
  if offset + width > buf.length then return none
  else do
    let n ← unpackFrom width buf offset
    return some n

/-- `_u16`. -/
def u16 (buf : Bytes) (offset : Nat) : Except BuiltinError (Option Nat) := uint 2 buf offset

/-- `_u32`. -/
def u32 (buf : Bytes) (offset : Nat) : Except BuiltinError (Option Nat) := uint 4 buf offset

/-- `_u64`. -/
def u64 (buf : Bytes) (offset : Nat) : Except BuiltinError (Option Nat) := uint 8 buf offset

/-- `x = None` when `x == v`. -/
def noneIf (v : Nat) (x : Option Nat) : Option Nat := if x = some v then none else x

/-! ## Type 0: BIOS -/

/-- `_parse_bios_release_date`: `MM/DD/YYYY`, sometimes `MM/DD/YY`. -/
def parseBiosReleaseDate (s : Str) : Except BuiltinError (Option Date) :=
  let s := strip s
  if s = [] then return none
  else
    let parts := s.splitOn '/'
    if parts.length ≠ 3 then return none
    else do
      let year ← getItem parts (parts.length - 1)
      let fmt : List Directive :=
        if year.length = 4 then [.month, .literal '/', .day, .literal '/', .year]
        else [.month, .literal '/', .day, .literal '/', .shortYear]
      noneOnValueError (strptimeDate s fmt)

/-- The part of `parse_bios` that decodes the ROM size.  A legacy byte of 0xFF
refers to the extended word: bits 0-13 are the size, bits 14-15 its unit. -/
def decodeRomSize (romSize extended : Option Nat) : Option Nat :=
  match romSize with
  | none => none
  | some romSize =>
      if romSize = 0xFF then
        match extended with
        | some extended =>
            if extended ≠ 0 then
              let sizeValue := extended &&& 0x3FFF
              let unit := (extended >>> 14) &&& 0x03
              if unit = 0 then some (sizeValue * 1024 * 1024)
              else if unit = 1 then some (sizeValue * 1024 * 1024 * 1024)
              else none
            else some (16 * 1024 * 1024)
        | none => some (16 * 1024 * 1024)
      else some ((romSize + 1) * 65536)

/-- `parse_bios`. -/
def parseBios (raw : RawStructure) : Except BuiltinError BIOSInfo := do
  let f := raw.formatted
  let s := raw.strings
  let vendor ← str s (orZero (← u8 f 0))
  let version ← str s (orZero (← u8 f 1))
  let releaseDateRaw ← str s (orZero (← u8 f 4))
  let releaseDate ← parseBiosReleaseDate releaseDateRaw
  let romSize ← u8 f 5
  let romSizeBytes := decodeRomSize romSize (← u16 f 20)
  let characteristics := orZero (← u64 f 6)
  let biosMajor ← u8 f 16
  let biosMinor ← u8 f 17
  let ecMajor ← u8 f 18
  let ecMinor ← u8 f 19
  let characteristicsExtension := f.drop 14
  return { handle := raw.handle, vendor := vendor, version := version,
           releaseDate := releaseDate, releaseDateRaw := releaseDateRaw,
           romSizeBytes := romSizeBytes, biosMajor := biosMajor, biosMinor := biosMinor,
           ecMajor := ecMajor, ecMinor := ecMinor, characteristics := characteristics,
           characteristicsExtension := characteristicsExtension }

/-! ## Type 1: System -/

/-- `_parse_uuid`: all zeros mean "not set". -/
def parseUuid (buf : Bytes) : Except BuiltinError (Option UUID) :=
  if buf.length < 16 then return none
  else
    let raw := slice buf 0 16
    if raw = List.replicate 16 0 then return none
    else noneOnValueError (uuidOfBytesLE raw)

/-- `_parse_uuid(f[4:20]) if len(f) >= 20 else None` in `parse_system`. -/
def systemUuid (f : Bytes) : Except BuiltinError (Option UUID) :=
  if f.length ≥ 20 then parseUuid (slice f 4 20) else return none

/-- `parse_system`. -/
def parseSystem (raw : RawStructure) : Except BuiltinError SystemInfo := do
  let f := raw.formatted
  let s := raw.strings
  let manufacturer ← str s (orZero (← u8 f 0))
  let productName ← str s (orZero (← u8 f 1))
  let version ← str s (orZero (← u8 f 2))
  let serialNumber ← str s (orZero (← u8 f 3))
  let uuid ← systemUuid f
  let wakeUpType := orZero (← u8 f 20)
  let skuNumber ← str s (orZero (← u8 f 21))
  let family ← str s (orZero (← u8 f 22))
  return { handle := raw.handle, manufacturer := manufacturer, productName := productName,
           version := version, serialNumber := serialNumber, uuid := uuid,
           wakeUpType := wakeUpType, skuNumber := skuNumber, family := family }

/-! ## Type 2: Baseboard -/

/-- `parse_baseboard`. -/
def parseBaseboard (raw : RawStructure) : Except BuiltinError BaseboardInfo := do
  let f := raw.formatted
  let s := raw.strings
  return { handle := raw.handle
           manufacturer := ← str s (orZero (← u8 f 0))
           product := ← str s (orZero (← u8 f 1))
           version := ← str s (orZero (← u8 f 2))
           serialNumber := ← str s (orZero (← u8 f 3))
           assetTag := ← str s (orZero (← u8 f 4))
           featureFlags := orZero (← u8 f 5)
           locationInChassis := ← str s (orZero (← u8 f 6))
           chassisHandle := orZero (← u16 f 7)
           boardType := orZero (← u8 f 9) }

/-! ## Type 3: Chassis -/

/-- `parse_chassis`.  The SKU index lies behind the contained-element table, `n`
records of `m` bytes. -/
def parseChassis (raw : RawStructure) : Except BuiltinError ChassisInfo := do
  let f := raw.formatted
  let s := raw.strings
  let typeByte := orZero (← u8 f 1)
  let typeLocked := truthy (typeByte &&& 0x80)
  let chassisType := typeByte &&& 0x7F
  let height := noneIf 0 (← u8 f 13)
  let powerCords := noneIf 0 (← u8 f 14)
  let n := orZero (← u8 f 15)
  let m := orZero (← u8 f 16)
  let skuOffset := 17 + n * m
  let skuIdx := orZero (← u8 f skuOffset)
  let skuNumber ← str s skuIdx
  return { handle := raw.handle
           manufacturer := ← str s (orZero (← u8 f 0))
           type := chassisType
           typeLocked := typeLocked
           version := ← str s (orZero (← u8 f 2))
           serialNumber := ← str s (orZero (← u8 f 3))
           assetTag := ← str s (orZero (← u8 f 4))
           bootupState := orZero (← u8 f 5)
           powerSupplyState := orZero (← u8 f 6)
           thermalState := orZero (← u8 f 7)
           securityStatus := orZero (← u8 f 8)
           heightU := height
           powerCords := powerCords
           skuNumber := skuNumber }

/-! ## Type 4: Processor -/

/-- `_resolve` of `parse_processor`: 0xFF refers to the 16-bit field, zero is
"unknown". -/
def resolve (small big : Option Nat) : Option Nat :=
  match small with
  | none => none
  | some small =>
      if small = 0xFF ∧ big ≠ none then big
      else if small = 0 then none
      else some small

/-- The family of `parse_processor`: 0xFE refers to the 16-bit field. -/
def decodeFamily (family8 : Nat) (family16 : Option Nat) : Nat :=
  match family16 with
  | some family16 => if family8 = 0xFE then family16 else family8
  | none => family8

/-- `parse_processor`. -/
def parseProcessor (raw : RawStructure) : Except BuiltinError ProcessorInfo := do
  let f := raw.formatted
  let s := raw.strings
  let family8 := orZero (← u8 f 2)
  let family16 ← u16 f 36
  let family := decodeFamily family8 family16
  let extClock := noneIf 0 (← u16 f 14)
  let maxSpeed := noneIf 0 (← u16 f 16)
  let curSpeed := noneIf 0 (← u16 f 18)
  let l1Cache := noneIf 0xFFFF (← u16 f 22)
  let l2Cache := noneIf 0xFFFF (← u16 f 24)
  let l3Cache := noneIf 0xFFFF (← u16 f 26)
  let coreCount8 ← u8 f 31
  let coreEnabled8 ← u8 f 32
  let threadCount8 ← u8 f 33
  let coreCount16 ← u16 f 38
  let coreEnabled16 ← u16 f 40
  let threadCount16 ← u16 f 42
  let threadsEnabled16 ← u16 f 44
  let coreCount := resolve coreCount8 coreCount16
  let coresEnabled := resolve coreEnabled8 coreEnabled16
  let threadCount := resolve threadCount8 threadCount16
  let threadsEnabled := noneIf 0 threadsEnabled16
  let processorId := if f.length ≥ 12 then slice f 4 12 else []
  return { handle := raw.handle
           socketDesignation := ← str s (orZero (← u8 f 0))
           type := orZero (← u8 f 1)
           family := family
           manufacturer := ← str s (orZero (← u8 f 3))
           processorId := processorId
           version := ← str s (orZero (← u8 f 12))
           voltageRaw := orZero (← u8 f 13)
           externalClockMhz := extClock
           maxSpeedMhz := maxSpeed
           currentSpeedMhz := curSpeed
           status := orZero (← u8 f 20)
           upgrade := orZero (← u8 f 21)
           l1CacheHandle := l1Cache
           l2CacheHandle := l2Cache
           l3CacheHandle := l3Cache
           serialNumber := ← str s (orZero (← u8 f 28))
           assetTag := ← str s (orZero (← u8 f 29))
           partNumber := ← str s (orZero (← u8 f 30))
           coreCount := coreCount
           coresEnabled := coresEnabled
           threadCount := threadCount
           threadsEnabled := threadsEnabled
           characteristics := orZero (← u16 f 34) }

/-! ## Type 7: Cache -/

/-- `_decode_cache_size`: bit 15 is the granularity, 0xFFFF refers to the 32-bit
field, whose granularity is bit 31. -/
def decodeCacheSize (value value2 : Option Nat) : Option Nat :=
  match value with
  | none => none
  | some value =>
      if value = 0 then some 0
      else if value = 0xFFFF then
        match value2 with
        | none => none
        | some value2 =>
            if value2 = 0 then none
            else
              let granularity := if truthy (value2 &&& 0x80000000) then 65536 else 1024
              let size := value2 &&& 0x7FFFFFFF
              some (size * granularity)
      else
        let granularity := if truthy (value &&& 0x8000) then 65536 else 1024
        let size := value &&& 0x7FFF
        some (size * granularity)

/-- `parse_cache`. -/
def parseCache (raw : RawStructure) : Except BuiltinError CacheInfo := do
  let f := raw.formatted
  let s := raw.strings
  let maxSize ← u16 f 3
  let installedSize ← u16 f 5
  let maxSize2 ← u32 f 15
  let installedSize2 ← u32 f 19
  let speed := noneIf 0 (← u8 f 11)
  return { handle := raw.handle
           socketDesignation := ← str s (orZero (← u8 f 0))
           configuration := orZero (← u16 f 1)
           maxSizeBytes := decodeCacheSize maxSize maxSize2
           installedSizeBytes := decodeCacheSize installedSize installedSize2
           supportedSramTypes := orZero (← u16 f 7)
           currentSramType := orZero (← u16 f 9)
           speedNanoseconds := speed
           errorCorrection := orZero (← u8 f 12)
           systemCacheType := orZero (← u8 f 13)
           associativity := orZero (← u8 f 14) }

/-! ## Type 9: System slot -/

/-- `parse_system_slot`. -/
def parseSystemSlot (raw : RawStructure) : Except BuiltinError SystemSlot := do
  let f := raw.formatted
  let s := raw.strings
  return { handle := raw.handle
           designation := ← str s (orZero (← u8 f 0))
           type := orZero (← u8 f 1)
           busWidth := orZero (← u8 f 2)
           currentUsage := orZero (← u8 f 3)
           length := orZero (← u8 f 4)
           slotId := orZero (← u16 f 5)
           characteristics1 := orZero (← u8 f 7)
           characteristics2 := orZero (← u8 f 8)
           segmentGroup := ← u16 f 9
           busNumber := ← u8 f 11
           deviceFunction := ← u8 f 12 }

/-! ## Type 11: OEM strings -/

/-- `parse_oem_strings`: a count and the structure's own string table. -/
def parseOemStrings (raw : RawStructure) : Except BuiltinError (List Str) :=
  return raw.strings

/-! ## Type 16: Physical memory array -/

/-- The part of `parse_memory_array` that decodes the capacity: 0x80000000 refers
to the 64-bit field. -/
def decodeCapacity (maxCapacityKb extendedMaxCapacity : Option Nat) : Option Nat :=
  if maxCapacityKb.isSome ∧ maxCapacityKb ≠ some 0x80000000 then
    maxCapacityKb.map (· * 1024)
  else
    match extendedMaxCapacity with
    | some extended => if extended > 0 then some extended else none
    | none => none

/-- `parse_memory_array`. -/
def parseMemoryArray (raw : RawStructure) : Except BuiltinError MemoryArray := do
  let f := raw.formatted
  let maxCapacityKb ← u32 f 3
  let extendedMaxCapacity ← u64 f 11
  let maxCapacityBytes := decodeCapacity maxCapacityKb extendedMaxCapacity
  return { handle := raw.handle
           location := orZero (← u8 f 0)
           use := orZero (← u8 f 1)
           errorCorrection := orZero (← u8 f 2)
           maxCapacityBytes := maxCapacityBytes
           errorInfoHandle := orZero (← u16 f 7)
           deviceCount := orZero (← u16 f 9) }

/-! ## Type 17: Memory device -/

/-- `_decode_extended_size`: all ones mean "unknown". -/
def decodeExtendedSize (value : Option Nat) : Option Nat := noneIf 0xFFFFFFFFFFFFFFFF value

/-- `_decode_memory_size`: 0xFFFF is "unknown", 0x7FFF refers to the 32-bit field
in MB, and bit 15 tells KB from MB. -/
def decodeMemorySize (sizeWord extendedSize : Option Nat) : Option Nat :=
  match sizeWord with
  | none => none
  | some sizeWord =>
      if sizeWord = 0xFFFF then none
      else if sizeWord = 0 then some 0
      else if sizeWord = 0x7FFF then
        match extendedSize with
        | none => none
        | some extendedSize =>
            if extendedSize = 0 then none else some (extendedSize * 1024 * 1024)
      else if truthy (sizeWord &&& 0x8000) then some ((sizeWord &&& 0x7FFF) * 1024)
      else some (sizeWord * 1024 * 1024)

/-- The rank of a memory device: the low half of its byte, where zero is
"unknown". -/
def decodeRank (rankByte : Option Nat) : Option Nat :=
  match rankByte with
  | none => none
  | some rankByte => if truthy (rankByte &&& 0x0F) then some (rankByte &&& 0x0F) else none

/-- An extended speed: bit 31 is reserved, and zero is "unknown". -/
def decodeExtendedSpeed (speed : Option Nat) : Option Nat :=
  match speed with
  | none => none
  | some speed => noneIf 0 (some (speed &&& 0x7FFFFFFF))

/-- `parse_memory_device`. -/
def parseMemoryDevice (raw : RawStructure) : Except BuiltinError MemoryDevice := do
  let f := raw.formatted
  let s := raw.strings
  let totalWidth := noneIf 0xFFFF (← u16 f 4)
  let dataWidth := noneIf 0xFFFF (← u16 f 6)
  let sizeWord ← u16 f 8
  let extendedSize ← u32 f 24
  let sizeBytes := decodeMemorySize sizeWord extendedSize
  let speed := noneIf 0 (← u16 f 17)
  let configuredSpeed := noneIf 0 (← u16 f 28)
  let rank := decodeRank (← u8 f 23)
  let minV := noneIf 0 (← u16 f 30)
  let maxV := noneIf 0 (← u16 f 32)
  let cfgV := noneIf 0 (← u16 f 34)
  let memoryTechnology := orZero (← u8 f 36)
  let operatingMode := orZero (← u16 f 37)
  let moduleFw ← str s (orZero (← u8 f 39))
  let moduleMfgId := orZero (← u16 f 40)
  let moduleProdId := orZero (← u16 f 42)
  let subsysMfgId := orZero (← u16 f 44)
  let subsysProdId := orZero (← u16 f 46)
  let nonVolatileSize := decodeExtendedSize (← u64 f 48)
  let volatileSize := decodeExtendedSize (← u64 f 56)
  let cacheSize := decodeExtendedSize (← u64 f 64)
  let logicalSize := decodeExtendedSize (← u64 f 72)
  let extendedSpeed := decodeExtendedSpeed (← u32 f 80)
  let extendedCfgSpeed := decodeExtendedSpeed (← u32 f 84)
  return { handle := raw.handle
           arrayHandle := orZero (← u16 f 0)
           errorInfoHandle := orZero (← u16 f 2)
           totalWidthBits := totalWidth
           dataWidthBits := dataWidth
           sizeBytes := sizeBytes
           formFactor := orZero (← u8 f 10)
           deviceSet := orZero (← u8 f 11)
           locator := ← str s (orZero (← u8 f 12))
           bankLocator := ← str s (orZero (← u8 f 13))
           type := orZero (← u8 f 14)
           typeDetail := orZero (← u16 f 15)
           speedMts := speed
           manufacturer := ← str s (orZero (← u8 f 19))
           serialNumber := ← str s (orZero (← u8 f 20))
           assetTag := ← str s (orZero (← u8 f 21))
           partNumber := ← str s (orZero (← u8 f 22))
           rank := rank
           configuredSpeedMts := configuredSpeed
           minVoltageMv := minV
           maxVoltageMv := maxV
           configuredVoltageMv := cfgV
           memoryTechnology := memoryTechnology
           operatingModeCapability := operatingMode
           moduleFirmwareVersion := moduleFw
           moduleManufacturerId := moduleMfgId
           moduleProductId := moduleProdId
           subsystemControllerManufacturerId := subsysMfgId
           subsystemControllerProductId := subsysProdId
           nonVolatileSizeBytes := nonVolatileSize
           volatileSizeBytes := volatileSize
           cacheSizeBytes := cacheSize
           logicalSizeBytes := logicalSize
           extendedSpeedMts := extendedSpeed
           extendedConfiguredSpeedMts := extendedCfgSpeed }

/-! ## Type 38: IPMI device -/

/-- `parse_ipmi_device`. -/
def parseIpmiDevice (raw : RawStructure) : Except BuiltinError IPMIDevice := do
  let f := raw.formatted
  let specByte := orZero (← u8 f 1)
  let specMajor := (specByte >>> 4) &&& 0x0F
  let specMinor := specByte &&& 0x0F
  return { handle := raw.handle
           interfaceType := orZero (← u8 f 0)
           specVersionMajor := specMajor
           specVersionMinor := specMinor
           i2cSlaveAddress := orZero (← u8 f 2)
           nvStorageAddress := orZero (← u8 f 3)
           baseAddress := orZero (← u64 f 4)
           baseAddressModifier := orZero (← u8 f 12)
           interruptNumber := orZero (← u8 f 13) }

/-! ## Type 43: TPM device -/

/-- `parse_tpm_device`. -/
def parseTpmDevice (raw : RawStructure) : Except BuiltinError TPMDevice := do
  let f := raw.formatted
  let s := raw.strings
  let vendorBytes := if f.length ≥ 4 then slice f 0 4 else []
  let vendorId := decodeLatin1 (rstripNul vendorBytes)
  return { handle := raw.handle
           vendorId := vendorId
           specMajor := orZero (← u8 f 4)
           specMinor := orZero (← u8 f 5)
           firmwareVersion1 := orZero (← u32 f 6)
           firmwareVersion2 := orZero (← u32 f 10)
           description := ← str s (orZero (← u8 f 14))
           characteristics := orZero (← u64 f 15) }

end TruenasPydmi
