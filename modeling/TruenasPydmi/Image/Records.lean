/-
  Image/Records.lean --- the records as they are stored, and which records there are.

  For each dataclass of `models.py`, `WellFormed` says what its fields can hold and
  `toRaw` writes it as a structure: the cells of the formatted area in the order of
  the specification, and its texts as the string set.  Where a parser reads past the
  end of a short structure, some fields stay `None` that no complete structure leaves
  `None`; `Complete` says that a record has no such field.

  A writer lists widths and never an offset, a parser reads at offsets and never past
  a neighbour: that the two agree is proved in `Image/RoundTrip.lean`.
-/
import TruenasPydmi.Image.Values
import TruenasPydmi.Walk.Encoding

set_option autoImplicit false

namespace TruenasPydmi

open TruenasPydmi.Foundation TruenasPydmi.Python

/-! ## Writing a structure -/

/-- Only such a text has a place in the string set. -/
def present (s : Str) : Bool := s ≠ []

/-- The cell with the number of a text. -/
def textCell (texts : List Str) (i : Nat) : Cell := .num 1 (rank present texts i)

/-- A structure from its texts and its cells; the cells are given the cell for each
text. -/
def build (type handle : Nat) (texts : List Str) (cells : (Nat → Cell) → List Cell) :
    RawStructure where
  type := type
  handle := handle
  formatted := image (cells (textCell texts))
  strings := texts.filter present

/-! ## Type 0: BIOS -/

/-- The extended ROM size, inside the bytes behind the characteristics. -/
def romSizeWord (extension : Bytes) : Option Nat :=
  if 8 ≤ extension.length then some (fromLE (slice extension 6 8)) else none

/-- What the ROM size of a BIOS can be, given the extended size. -/
def RomSize (extended x : Option Nat) : Prop :=
  x = none ∨ (∃ k < 0xFF, x = some ((k + 1) * 65536)) ∨ x = decodeRomSize (some 0xFF) extended

/-- The byte of a ROM size. -/
def storeRomSize (extended x : Option Nat) : Nat :=
  if decodeRomSize (some 0xFF) extended = x then 0xFF else orZero x / 65536 - 1

structure BIOSInfo.WellFormed (b : BIOSInfo) : Prop where
  handle : b.handle < 0x10000
  vendor : Text b.vendor
  version : Text b.version
  releaseDate : b.releaseDate = TruenasPydmi.releaseDate b.releaseDateRaw
  releaseDateRaw : Text b.releaseDateRaw
  romSize : RomSize (romSizeWord b.characteristicsExtension) b.romSizeBytes
  biosMajor : b.biosMajor = b.characteristicsExtension[2]?.map UInt8.toNat
  biosMinor : b.biosMinor = b.characteristicsExtension[3]?.map UInt8.toNat
  ecMajor : b.ecMajor = b.characteristicsExtension[4]?.map UInt8.toNat
  ecMinor : b.ecMinor = b.characteristicsExtension[5]?.map UInt8.toNat
  characteristics : b.characteristics < 0x10000000000000000
  extension : b.characteristicsExtension.length ≤ 237

/-- Without a ROM size only where the extended size has a reserved unit. -/
def BIOSInfo.Complete (b : BIOSInfo) : Prop :=
  b.romSizeBytes = none →
    decodeRomSize (some 0xFF) (romSizeWord b.characteristicsExtension) = none

/-- The start segment is not kept by the parser; it is written as zero. -/
def BIOSInfo.toRaw (b : BIOSInfo) : RawStructure :=
  build 0 b.handle [b.vendor, b.version, b.releaseDateRaw] fun text =>
    [text 0, text 1, .num 2 0, text 2,
      .num 1 (storeRomSize (romSizeWord b.characteristicsExtension) b.romSizeBytes),
      .num 8 b.characteristics, .bytes b.characteristicsExtension]

/-! ## Type 1: System -/

structure SystemInfo.WellFormed (s : SystemInfo) : Prop where
  handle : s.handle < 0x10000
  manufacturer : Text s.manufacturer
  productName : Text s.productName
  version : Text s.version
  serialNumber : Text s.serialNumber
  uuid : ∀ u ∈ s.uuid, u.bytes ≠ List.replicate 16 0
  wakeUpType : s.wakeUpType < 0x100
  skuNumber : Text s.skuNumber
  family : Text s.family

def SystemInfo.toRaw (s : SystemInfo) : RawStructure :=
  build 1 s.handle
    [s.manufacturer, s.productName, s.version, s.serialNumber, s.skuNumber, s.family] fun text =>
    [text 0, text 1, text 2, text 3, .fixed 16 (storeUuid s.uuid), .num 1 s.wakeUpType,
      text 4, text 5]

/-! ## Types 2 and 3: Baseboard and chassis -/

structure BaseboardInfo.WellFormed (b : BaseboardInfo) : Prop where
  handle : b.handle < 0x10000
  manufacturer : Text b.manufacturer
  product : Text b.product
  version : Text b.version
  serialNumber : Text b.serialNumber
  assetTag : Text b.assetTag
  featureFlags : b.featureFlags < 0x100
  locationInChassis : Text b.locationInChassis
  chassisHandle : b.chassisHandle < 0x10000
  boardType : b.boardType < 0x100

def BaseboardInfo.toRaw (b : BaseboardInfo) : RawStructure :=
  build 2 b.handle
    [b.manufacturer, b.product, b.version, b.serialNumber, b.assetTag, b.locationInChassis]
    fun text =>
    [text 0, text 1, text 2, text 3, text 4, .num 1 b.featureFlags, text 5,
      .num 2 b.chassisHandle, .num 1 b.boardType]

structure ChassisInfo.WellFormed (c : ChassisInfo) : Prop where
  handle : c.handle < 0x10000
  manufacturer : Text c.manufacturer
  type : c.type < 0x80
  version : Text c.version
  serialNumber : Text c.serialNumber
  assetTag : Text c.assetTag
  bootupState : c.bootupState < 0x100
  powerSupplyState : c.powerSupplyState < 0x100
  thermalState : c.thermalState < 0x100
  securityStatus : c.securityStatus < 0x100
  heightU : Within 0x100 0 c.heightU
  powerCords : Within 0x100 0 c.powerCords
  skuNumber : Text c.skuNumber

/-- Four OEM-defined bytes, and no contained elements before the SKU. -/
def ChassisInfo.toRaw (c : ChassisInfo) : RawStructure :=
  build 3 c.handle [c.manufacturer, c.version, c.serialNumber, c.assetTag, c.skuNumber] fun text =>
    [text 0, .num 1 (withFlag 7 c.typeLocked c.type), text 1, text 2, text 3,
      .num 1 c.bootupState, .num 1 c.powerSupplyState, .num 1 c.thermalState,
      .num 1 c.securityStatus, .num 4 0, .num 1 (c.heightU.getD 0), .num 1 (c.powerCords.getD 0),
      .num 1 0, .num 1 0, text 4]

/-! ## Types 4 and 7: Processor and cache -/

structure ProcessorInfo.WellFormed (p : ProcessorInfo) : Prop where
  handle : p.handle < 0x10000
  socketDesignation : Text p.socketDesignation
  type : p.type < 0x100
  family : p.family < 0x10000
  manufacturer : Text p.manufacturer
  processorId : p.processorId = [] ∨ p.processorId.length = 8
  version : Text p.version
  voltageRaw : p.voltageRaw < 0x100
  externalClockMhz : Within 0x10000 0 p.externalClockMhz
  maxSpeedMhz : Within 0x10000 0 p.maxSpeedMhz
  currentSpeedMhz : Within 0x10000 0 p.currentSpeedMhz
  status : p.status < 0x100
  upgrade : p.upgrade < 0x100
  l1CacheHandle : Within 0x10000 0xFFFF p.l1CacheHandle
  l2CacheHandle : Within 0x10000 0xFFFF p.l2CacheHandle
  l3CacheHandle : Within 0x10000 0xFFFF p.l3CacheHandle
  serialNumber : Text p.serialNumber
  assetTag : Text p.assetTag
  partNumber : Text p.partNumber
  coreCount : ∀ n ∈ p.coreCount, n < 0x10000
  coresEnabled : ∀ n ∈ p.coresEnabled, n < 0x10000
  threadCount : ∀ n ∈ p.threadCount, n < 0x10000
  threadsEnabled : Within 0x10000 0 p.threadsEnabled
  characteristics : p.characteristics < 0x10000

/-- The processor ID is there. -/
def ProcessorInfo.Complete (p : ProcessorInfo) : Prop := p.processorId ≠ []

def ProcessorInfo.toRaw (p : ProcessorInfo) : RawStructure :=
  build 4 p.handle
    [p.socketDesignation, p.manufacturer, p.version, p.serialNumber, p.assetTag, p.partNumber]
    fun text =>
    [text 0, .num 1 p.type, .num 1 0xFE, text 1, .fixed 8 p.processorId, text 2,
      .num 1 p.voltageRaw, .num 2 (p.externalClockMhz.getD 0), .num 2 (p.maxSpeedMhz.getD 0),
      .num 2 (p.currentSpeedMhz.getD 0), .num 1 p.status, .num 1 p.upgrade,
      .num 2 (p.l1CacheHandle.getD 0xFFFF), .num 2 (p.l2CacheHandle.getD 0xFFFF),
      .num 2 (p.l3CacheHandle.getD 0xFFFF), text 3, text 4, text 5,
      .num 1 (storeCount p.coreCount).1, .num 1 (storeCount p.coresEnabled).1,
      .num 1 (storeCount p.threadCount).1, .num 2 p.characteristics, .num 2 p.family,
      .num 2 (storeCount p.coreCount).2, .num 2 (storeCount p.coresEnabled).2,
      .num 2 (storeCount p.threadCount).2, .num 2 (p.threadsEnabled.getD 0)]

structure CacheInfo.WellFormed (c : CacheInfo) : Prop where
  handle : c.handle < 0x10000
  socketDesignation : Text c.socketDesignation
  configuration : c.configuration < 0x10000
  maxSize : CacheSize c.maxSizeBytes
  installedSize : CacheSize c.installedSizeBytes
  supportedSramTypes : c.supportedSramTypes < 0x10000
  currentSramType : c.currentSramType < 0x10000
  speedNanoseconds : Within 0x100 0 c.speedNanoseconds
  errorCorrection : c.errorCorrection < 0x100
  systemCacheType : c.systemCacheType < 0x100
  associativity : c.associativity < 0x100

def CacheInfo.toRaw (c : CacheInfo) : RawStructure :=
  build 7 c.handle [c.socketDesignation] fun text =>
    [text 0, .num 2 c.configuration, .num 2 (storeCacheSize c.maxSizeBytes).1,
      .num 2 (storeCacheSize c.installedSizeBytes).1, .num 2 c.supportedSramTypes,
      .num 2 c.currentSramType, .num 1 (c.speedNanoseconds.getD 0), .num 1 c.errorCorrection,
      .num 1 c.systemCacheType, .num 1 c.associativity,
      .num 4 (storeCacheSize c.maxSizeBytes).2, .num 4 (storeCacheSize c.installedSizeBytes).2]

/-! ## Types 9, 16 and 17: Slot, memory array and memory device -/

structure SystemSlot.WellFormed (s : SystemSlot) : Prop where
  handle : s.handle < 0x10000
  designation : Text s.designation
  type : s.type < 0x100
  busWidth : s.busWidth < 0x100
  currentUsage : s.currentUsage < 0x100
  length : s.length < 0x100
  slotId : s.slotId < 0x10000
  characteristics1 : s.characteristics1 < 0x100
  characteristics2 : s.characteristics2 < 0x100
  segmentGroup : ∀ n ∈ s.segmentGroup, n < 0x10000
  busNumber : ∀ n ∈ s.busNumber, n < 0x100
  deviceFunction : ∀ n ∈ s.deviceFunction, n < 0x100

/-- The address of the slot is there. -/
structure SystemSlot.Complete (s : SystemSlot) : Prop where
  segmentGroup : s.segmentGroup ≠ none
  busNumber : s.busNumber ≠ none
  deviceFunction : s.deviceFunction ≠ none

def SystemSlot.toRaw (s : SystemSlot) : RawStructure :=
  build 9 s.handle [s.designation] fun text =>
    [text 0, .num 1 s.type, .num 1 s.busWidth, .num 1 s.currentUsage, .num 1 s.length,
      .num 2 s.slotId, .num 1 s.characteristics1, .num 1 s.characteristics2,
      .num 2 (orZero s.segmentGroup), .num 1 (orZero s.busNumber),
      .num 1 (orZero s.deviceFunction)]

structure MemoryArray.WellFormed (a : MemoryArray) : Prop where
  handle : a.handle < 0x10000
  location : a.location < 0x100
  use : a.use < 0x100
  errorCorrection : a.errorCorrection < 0x100
  maxCapacity : ∀ n ∈ a.maxCapacityBytes, n < 0x10000000000000000
  errorInfoHandle : a.errorInfoHandle < 0x10000
  deviceCount : a.deviceCount < 0x10000

def MemoryArray.toRaw (a : MemoryArray) : RawStructure :=
  build 16 a.handle [] fun _ =>
    [.num 1 a.location, .num 1 a.use, .num 1 a.errorCorrection,
      .num 4 (storeCapacity a.maxCapacityBytes).1, .num 2 a.errorInfoHandle,
      .num 2 a.deviceCount, .num 8 (storeCapacity a.maxCapacityBytes).2]

structure MemoryDevice.WellFormed (d : MemoryDevice) : Prop where
  handle : d.handle < 0x10000
  arrayHandle : d.arrayHandle < 0x10000
  errorInfoHandle : d.errorInfoHandle < 0x10000
  totalWidthBits : Within 0x10000 0xFFFF d.totalWidthBits
  dataWidthBits : Within 0x10000 0xFFFF d.dataWidthBits
  size : MemorySize d.sizeBytes
  formFactor : d.formFactor < 0x100
  deviceSet : d.deviceSet < 0x100
  locator : Text d.locator
  bankLocator : Text d.bankLocator
  type : d.type < 0x100
  typeDetail : d.typeDetail < 0x10000
  speedMts : Within 0x10000 0 d.speedMts
  manufacturer : Text d.manufacturer
  serialNumber : Text d.serialNumber
  assetTag : Text d.assetTag
  partNumber : Text d.partNumber
  rank : Within 0x10 0 d.rank
  configuredSpeedMts : Within 0x10000 0 d.configuredSpeedMts
  minVoltageMv : Within 0x10000 0 d.minVoltageMv
  maxVoltageMv : Within 0x10000 0 d.maxVoltageMv
  configuredVoltageMv : Within 0x10000 0 d.configuredVoltageMv
  memoryTechnology : d.memoryTechnology < 0x100
  operatingModeCapability : d.operatingModeCapability < 0x10000
  moduleFirmwareVersion : Text d.moduleFirmwareVersion
  moduleManufacturerId : d.moduleManufacturerId < 0x10000
  moduleProductId : d.moduleProductId < 0x10000
  subsystemControllerManufacturerId : d.subsystemControllerManufacturerId < 0x10000
  subsystemControllerProductId : d.subsystemControllerProductId < 0x10000
  nonVolatileSize : Within 0x10000000000000000 0xFFFFFFFFFFFFFFFF d.nonVolatileSizeBytes
  volatileSize : Within 0x10000000000000000 0xFFFFFFFFFFFFFFFF d.volatileSizeBytes
  cacheSize : Within 0x10000000000000000 0xFFFFFFFFFFFFFFFF d.cacheSizeBytes
  logicalSize : Within 0x10000000000000000 0xFFFFFFFFFFFFFFFF d.logicalSizeBytes
  extendedSpeedMts : Within 0x80000000 0 d.extendedSpeedMts
  extendedConfiguredSpeedMts : Within 0x80000000 0 d.extendedConfiguredSpeedMts

def MemoryDevice.toRaw (d : MemoryDevice) : RawStructure :=
  build 17 d.handle
    [d.locator, d.bankLocator, d.manufacturer, d.serialNumber, d.assetTag, d.partNumber,
      d.moduleFirmwareVersion] fun text =>
    [.num 2 d.arrayHandle, .num 2 d.errorInfoHandle, .num 2 (d.totalWidthBits.getD 0xFFFF),
      .num 2 (d.dataWidthBits.getD 0xFFFF), .num 2 (storeMemorySize d.sizeBytes).1,
      .num 1 d.formFactor, .num 1 d.deviceSet, text 0, text 1, .num 1 d.type,
      .num 2 d.typeDetail, .num 2 (d.speedMts.getD 0), text 2, text 3, text 4, text 5,
      .num 1 (d.rank.getD 0), .num 4 (storeMemorySize d.sizeBytes).2,
      .num 2 (d.configuredSpeedMts.getD 0), .num 2 (d.minVoltageMv.getD 0),
      .num 2 (d.maxVoltageMv.getD 0), .num 2 (d.configuredVoltageMv.getD 0),
      .num 1 d.memoryTechnology, .num 2 d.operatingModeCapability, text 6,
      .num 2 d.moduleManufacturerId, .num 2 d.moduleProductId,
      .num 2 d.subsystemControllerManufacturerId, .num 2 d.subsystemControllerProductId,
      .num 8 (d.nonVolatileSizeBytes.getD 0xFFFFFFFFFFFFFFFF),
      .num 8 (d.volatileSizeBytes.getD 0xFFFFFFFFFFFFFFFF),
      .num 8 (d.cacheSizeBytes.getD 0xFFFFFFFFFFFFFFFF),
      .num 8 (d.logicalSizeBytes.getD 0xFFFFFFFFFFFFFFFF),
      .num 4 (d.extendedSpeedMts.getD 0), .num 4 (d.extendedConfiguredSpeedMts.getD 0)]

/-! ## Types 11, 38 and 43: OEM strings, IPMI and TPM -/

/-- A structure of nothing but strings; the formatted area holds their number. -/
def oemStringsRaw (handle : Nat) (strings : List Str) : RawStructure :=
  build 11 handle strings fun _ => [.num 1 strings.length]

structure IPMIDevice.WellFormed (d : IPMIDevice) : Prop where
  handle : d.handle < 0x10000
  interfaceType : d.interfaceType < 0x100
  specVersionMajor : d.specVersionMajor < 0x10
  specVersionMinor : d.specVersionMinor < 0x10
  i2cSlaveAddress : d.i2cSlaveAddress < 0x100
  nvStorageAddress : d.nvStorageAddress < 0x100
  baseAddress : d.baseAddress < 0x10000000000000000
  baseAddressModifier : d.baseAddressModifier < 0x100
  interruptNumber : d.interruptNumber < 0x100

def IPMIDevice.toRaw (d : IPMIDevice) : RawStructure :=
  build 38 d.handle [] fun _ =>
    [.num 1 d.interfaceType, .num 1 (0x10 * d.specVersionMajor + d.specVersionMinor),
      .num 1 d.i2cSlaveAddress, .num 1 d.nvStorageAddress, .num 8 d.baseAddress,
      .num 1 d.baseAddressModifier, .num 1 d.interruptNumber]

structure TPMDevice.WellFormed (d : TPMDevice) : Prop where
  handle : d.handle < 0x10000
  vendorId : Vendor d.vendorId
  specMajor : d.specMajor < 0x100
  specMinor : d.specMinor < 0x100
  firmwareVersion1 : d.firmwareVersion1 < 0x100000000
  firmwareVersion2 : d.firmwareVersion2 < 0x100000000
  description : Text d.description
  characteristics : d.characteristics < 0x10000000000000000

def TPMDevice.toRaw (d : TPMDevice) : RawStructure :=
  build 43 d.handle [d.description] fun text =>
    [.fixed 4 (storeVendor d.vendorId), .num 1 d.specMajor, .num 1 d.specMinor,
      .num 4 d.firmwareVersion1, .num 4 d.firmwareVersion2, text 0, .num 8 d.characteristics]

end TruenasPydmi
