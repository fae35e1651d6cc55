/-
  Models.lean --- the dataclasses of `models.py`.

  Every record keeps the fields of its dataclass in their order.  `asFields`
  lists them with their names, as `dataclasses.fields` does, with the values of
  the different field types brought to one type; properties that speak of "every
  field" of a record quantify over that list.
-/
import TruenasPydmi.Python.Stdlib

set_option autoImplicit false

namespace TruenasPydmi

open TruenasPydmi.Python

/-- A SMBIOS structure with its formatted area and string table parsed out, but
not interpreted. -/
structure RawStructure where
  type : Nat
  handle : Nat
  formatted : Bytes
  strings : List Str
  deriving DecidableEq, Repr

/-! ## Field values -/

/-- A value that a field of a record can hold. -/
inductive Value where
  | none
  | int (n : Nat)
  | bool (b : Bool)
  | str (s : Str)
  | bytes (b : Bytes)
  | date (d : Date)
  | uuid (u : UUID)
  deriving DecidableEq

/-- `bool(value)`. -/
instance : Truthy Value where
  truthy
    | .none => false
    | .int n => truthy n
    | .bool b => b
    | .str s => truthy s
    | .bytes b => truthy b
    | .date d => truthy d
    | .uuid u => truthy u

/-- Field types whose values are `Value`s, with the truth value they have. -/
class ToValue (α : Type) [Truthy α] where
  /-- The value as a `Value`. -/
  toValue : α → Value
  truthy_toValue : ∀ a, truthy (toValue a) = truthy a

export ToValue (toValue truthy_toValue)

instance : ToValue Nat := ⟨.int, fun _ => rfl⟩
instance : ToValue Bool := ⟨.bool, fun _ => rfl⟩
instance : ToValue Str := ⟨.str, fun _ => rfl⟩
instance : ToValue Bytes := ⟨.bytes, fun _ => rfl⟩
instance : ToValue Date := ⟨.date, fun _ => rfl⟩
instance : ToValue UUID := ⟨.uuid, fun _ => rfl⟩
instance {α : Type} [Truthy α] [ToValue α] : ToValue (Option α) where
  toValue
    | none => .none
    | some a => toValue a
  truthy_toValue
    | none => rfl
    | some a => truthy_toValue a

/-- The named fields of a record. -/
abbrev Fields : Type := List (String × Value)

/-! ## Records -/

/-- SMBIOS Type 0 --- BIOS Information. -/
structure BIOSInfo where
  handle : Nat
  vendor : Str
  version : Str
  releaseDate : Option Date
  releaseDateRaw : Str
  romSizeBytes : Option Nat
  biosMajor : Option Nat
  biosMinor : Option Nat
  ecMajor : Option Nat
  ecMinor : Option Nat
  characteristics : Nat
  characteristicsExtension : Bytes
  deriving DecidableEq

/-- The fields of a `BIOSInfo`. -/
def BIOSInfo.asFields (b : BIOSInfo) : Fields :=
  [("handle", toValue b.handle), ("vendor", toValue b.vendor), ("version", toValue b.version),
    ("release_date", toValue b.releaseDate), ("release_date_raw", toValue b.releaseDateRaw),
    ("rom_size_bytes", toValue b.romSizeBytes), ("bios_major", toValue b.biosMajor),
    ("bios_minor", toValue b.biosMinor), ("ec_major", toValue b.ecMajor),
    ("ec_minor", toValue b.ecMinor), ("characteristics", toValue b.characteristics),
    ("characteristics_extension", toValue b.characteristicsExtension)]

/-- SMBIOS Type 1 --- System Information. -/
structure SystemInfo where
  handle : Nat
  manufacturer : Str
  productName : Str
  version : Str
  serialNumber : Str
  uuid : Option UUID
  wakeUpType : Nat
  skuNumber : Str
  family : Str
  deriving DecidableEq

/-- The fields of a `SystemInfo`. -/
def SystemInfo.asFields (s : SystemInfo) : Fields :=
  [("handle", toValue s.handle), ("manufacturer", toValue s.manufacturer),
    ("product_name", toValue s.productName), ("version", toValue s.version),
    ("serial_number", toValue s.serialNumber), ("uuid", toValue s.uuid),
    ("wake_up_type", toValue s.wakeUpType), ("sku_number", toValue s.skuNumber),
    ("family", toValue s.family)]

/-- SMBIOS Type 2 --- Baseboard (or Module) Information. -/
structure BaseboardInfo where
  handle : Nat
  manufacturer : Str
  product : Str
  version : Str
  serialNumber : Str
  assetTag : Str
  featureFlags : Nat
  locationInChassis : Str
  chassisHandle : Nat
  boardType : Nat
  deriving DecidableEq

/-- The fields of a `BaseboardInfo`. -/
def BaseboardInfo.asFields (b : BaseboardInfo) : Fields :=
  [("handle", toValue b.handle), ("manufacturer", toValue b.manufacturer),
    ("product", toValue b.product), ("version", toValue b.version),
    ("serial_number", toValue b.serialNumber), ("asset_tag", toValue b.assetTag),
    ("feature_flags", toValue b.featureFlags),
    ("location_in_chassis", toValue b.locationInChassis),
    ("chassis_handle", toValue b.chassisHandle), ("board_type", toValue b.boardType)]

/-- SMBIOS Type 3 --- System Enclosure or Chassis. -/
structure ChassisInfo where
  handle : Nat
  manufacturer : Str
  type : Nat
  typeLocked : Bool
  version : Str
  serialNumber : Str
  assetTag : Str
  bootupState : Nat
  powerSupplyState : Nat
  thermalState : Nat
  securityStatus : Nat
  heightU : Option Nat
  powerCords : Option Nat
  skuNumber : Str
  deriving DecidableEq

/-- The fields of a `ChassisInfo`. -/
def ChassisInfo.asFields (c : ChassisInfo) : Fields :=
  [("handle", toValue c.handle), ("manufacturer", toValue c.manufacturer),
    ("type", toValue c.type), ("type_locked", toValue c.typeLocked),
    ("version", toValue c.version), ("serial_number", toValue c.serialNumber),
    ("asset_tag", toValue c.assetTag), ("bootup_state", toValue c.bootupState),
    ("power_supply_state", toValue c.powerSupplyState),
    ("thermal_state", toValue c.thermalState), ("security_status", toValue c.securityStatus),
    ("height_u", toValue c.heightU), ("power_cords", toValue c.powerCords),
    ("sku_number", toValue c.skuNumber)]

/-- SMBIOS Type 4 --- Processor Information. -/
structure ProcessorInfo where
  handle : Nat
  socketDesignation : Str
  type : Nat
  family : Nat
  manufacturer : Str
  processorId : Bytes
  version : Str
  voltageRaw : Nat
  externalClockMhz : Option Nat
  maxSpeedMhz : Option Nat
  currentSpeedMhz : Option Nat
  status : Nat
  upgrade : Nat
  l1CacheHandle : Option Nat
  l2CacheHandle : Option Nat
  l3CacheHandle : Option Nat
  serialNumber : Str
  assetTag : Str
  partNumber : Str
  coreCount : Option Nat
  coresEnabled : Option Nat
  threadCount : Option Nat
  threadsEnabled : Option Nat
  characteristics : Nat
  deriving DecidableEq

/-- The fields of a `ProcessorInfo`. -/
def ProcessorInfo.asFields (p : ProcessorInfo) : Fields :=
  [("handle", toValue p.handle), ("socket_designation", toValue p.socketDesignation),
    ("type", toValue p.type), ("family", toValue p.family),
    ("manufacturer", toValue p.manufacturer), ("processor_id", toValue p.processorId),
    ("version", toValue p.version), ("voltage_raw", toValue p.voltageRaw),
    ("external_clock_mhz", toValue p.externalClockMhz),
    ("max_speed_mhz", toValue p.maxSpeedMhz), ("current_speed_mhz", toValue p.currentSpeedMhz),
    ("status", toValue p.status), ("upgrade", toValue p.upgrade),
    ("l1_cache_handle", toValue p.l1CacheHandle), ("l2_cache_handle", toValue p.l2CacheHandle),
    ("l3_cache_handle", toValue p.l3CacheHandle), ("serial_number", toValue p.serialNumber),
    ("asset_tag", toValue p.assetTag), ("part_number", toValue p.partNumber),
    ("core_count", toValue p.coreCount), ("cores_enabled", toValue p.coresEnabled),
    ("thread_count", toValue p.threadCount), ("threads_enabled", toValue p.threadsEnabled),
    ("characteristics", toValue p.characteristics)]

/-- CPU Socket Populated bit (Status, bit 6). -/
def ProcessorInfo.populated (p : ProcessorInfo) : Bool := truthy (p.status &&& 0x40)

/-- SMBIOS Type 7 --- Cache Information. -/
structure CacheInfo where
  handle : Nat
  socketDesignation : Str
  configuration : Nat
  maxSizeBytes : Option Nat
  installedSizeBytes : Option Nat
  supportedSramTypes : Nat
  currentSramType : Nat
  speedNanoseconds : Option Nat
  errorCorrection : Nat
  systemCacheType : Nat
  associativity : Nat
  deriving DecidableEq

/-- The fields of a `CacheInfo`. -/
def CacheInfo.asFields (c : CacheInfo) : Fields :=
  [("handle", toValue c.handle), ("socket_designation", toValue c.socketDesignation),
    ("configuration", toValue c.configuration), ("max_size_bytes", toValue c.maxSizeBytes),
    ("installed_size_bytes", toValue c.installedSizeBytes),
    ("supported_sram_types", toValue c.supportedSramTypes),
    ("current_sram_type", toValue c.currentSramType),
    ("speed_nanoseconds", toValue c.speedNanoseconds),
    ("error_correction", toValue c.errorCorrection),
    ("system_cache_type", toValue c.systemCacheType),
    ("associativity", toValue c.associativity)]

/-- SMBIOS Type 9 --- System Slots. -/
structure SystemSlot where
  handle : Nat
  designation : Str
  type : Nat
  busWidth : Nat
  currentUsage : Nat
  length : Nat
  slotId : Nat
  characteristics1 : Nat
  characteristics2 : Nat
  segmentGroup : Option Nat
  busNumber : Option Nat
  deviceFunction : Option Nat
  deriving DecidableEq

/-- The fields of a `SystemSlot`. -/
def SystemSlot.asFields (s : SystemSlot) : Fields :=
  [("handle", toValue s.handle), ("designation", toValue s.designation),
    ("type", toValue s.type), ("bus_width", toValue s.busWidth),
    ("current_usage", toValue s.currentUsage), ("length", toValue s.length),
    ("slot_id", toValue s.slotId), ("characteristics_1", toValue s.characteristics1),
    ("characteristics_2", toValue s.characteristics2),
    ("segment_group", toValue s.segmentGroup), ("bus_number", toValue s.busNumber),
    ("device_function", toValue s.deviceFunction)]

/-- SMBIOS Type 16 --- Physical Memory Array. -/
structure MemoryArray where
  handle : Nat
  location : Nat
  use : Nat
  errorCorrection : Nat
  maxCapacityBytes : Option Nat
  errorInfoHandle : Nat
  deviceCount : Nat
  deriving DecidableEq

/-- The fields of a `MemoryArray`. -/
def MemoryArray.asFields (a : MemoryArray) : Fields :=
  [("handle", toValue a.handle), ("location", toValue a.location), ("use", toValue a.use),
    ("error_correction", toValue a.errorCorrection),
    ("max_capacity_bytes", toValue a.maxCapacityBytes),
    ("error_info_handle", toValue a.errorInfoHandle), ("device_count", toValue a.deviceCount)]

/-- SMBIOS Type 17 --- Memory Device. -/
structure MemoryDevice where
  handle : Nat
  arrayHandle : Nat
  errorInfoHandle : Nat
  totalWidthBits : Option Nat
  dataWidthBits : Option Nat
  sizeBytes : Option Nat
  formFactor : Nat
  deviceSet : Nat
  locator : Str
  bankLocator : Str
  type : Nat
  typeDetail : Nat
  speedMts : Option Nat
  manufacturer : Str
  serialNumber : Str
  assetTag : Str
  partNumber : Str
  rank : Option Nat
  configuredSpeedMts : Option Nat
  minVoltageMv : Option Nat
  maxVoltageMv : Option Nat
  configuredVoltageMv : Option Nat
  memoryTechnology : Nat
  operatingModeCapability : Nat
  moduleFirmwareVersion : Str
  moduleManufacturerId : Nat
  moduleProductId : Nat
  subsystemControllerManufacturerId : Nat
  subsystemControllerProductId : Nat
  nonVolatileSizeBytes : Option Nat
  volatileSizeBytes : Option Nat
  cacheSizeBytes : Option Nat
  logicalSizeBytes : Option Nat
  extendedSpeedMts : Option Nat
  extendedConfiguredSpeedMts : Option Nat
  deriving DecidableEq

/-- The fields of a `MemoryDevice`. -/
def MemoryDevice.asFields (d : MemoryDevice) : Fields :=
  [("handle", toValue d.handle), ("array_handle", toValue d.arrayHandle),
    ("error_info_handle", toValue d.errorInfoHandle),
    ("total_width_bits", toValue d.totalWidthBits), ("data_width_bits", toValue d.dataWidthBits),
    ("size_bytes", toValue d.sizeBytes), ("form_factor", toValue d.formFactor),
    ("device_set", toValue d.deviceSet), ("locator", toValue d.locator),
    ("bank_locator", toValue d.bankLocator), ("type", toValue d.type),
    ("type_detail", toValue d.typeDetail), ("speed_mts", toValue d.speedMts),
    ("manufacturer", toValue d.manufacturer), ("serial_number", toValue d.serialNumber),
    ("asset_tag", toValue d.assetTag), ("part_number", toValue d.partNumber),
    ("rank", toValue d.rank), ("configured_speed_mts", toValue d.configuredSpeedMts),
    ("min_voltage_mv", toValue d.minVoltageMv), ("max_voltage_mv", toValue d.maxVoltageMv),
    ("configured_voltage_mv", toValue d.configuredVoltageMv),
    ("memory_technology", toValue d.memoryTechnology),
    ("operating_mode_capability", toValue d.operatingModeCapability),
    ("module_firmware_version", toValue d.moduleFirmwareVersion),
    ("module_manufacturer_id", toValue d.moduleManufacturerId),
    ("module_product_id", toValue d.moduleProductId),
    ("subsystem_controller_manufacturer_id", toValue d.subsystemControllerManufacturerId),
    ("subsystem_controller_product_id", toValue d.subsystemControllerProductId),
    ("non_volatile_size_bytes", toValue d.nonVolatileSizeBytes),
    ("volatile_size_bytes", toValue d.volatileSizeBytes),
    ("cache_size_bytes", toValue d.cacheSizeBytes),
    ("logical_size_bytes", toValue d.logicalSizeBytes),
    ("extended_speed_mts", toValue d.extendedSpeedMts),
    ("extended_configured_speed_mts", toValue d.extendedConfiguredSpeedMts)]

/-- A non-zero `size_bytes` means a module is installed. -/
def MemoryDevice.populated (d : MemoryDevice) : Bool :=
  match d.sizeBytes with
  | none => false
  | some size => 0 < size

/-- SMBIOS Type 38 --- IPMI Device Information. -/
structure IPMIDevice where
  handle : Nat
  interfaceType : Nat
  specVersionMajor : Nat
  specVersionMinor : Nat
  i2cSlaveAddress : Nat
  nvStorageAddress : Nat
  baseAddress : Nat
  baseAddressModifier : Nat
  interruptNumber : Nat
  deriving DecidableEq

/-- The fields of an `IPMIDevice`. -/
def IPMIDevice.asFields (d : IPMIDevice) : Fields :=
  [("handle", toValue d.handle), ("interface_type", toValue d.interfaceType),
    ("spec_version_major", toValue d.specVersionMajor),
    ("spec_version_minor", toValue d.specVersionMinor),
    ("i2c_slave_address", toValue d.i2cSlaveAddress),
    ("nv_storage_address", toValue d.nvStorageAddress),
    ("base_address", toValue d.baseAddress),
    ("base_address_modifier", toValue d.baseAddressModifier),
    ("interrupt_number", toValue d.interruptNumber)]

/-- SMBIOS Type 43 --- TPM Device. -/
structure TPMDevice where
  handle : Nat
  vendorId : Str
  specMajor : Nat
  specMinor : Nat
  firmwareVersion1 : Nat
  firmwareVersion2 : Nat
  description : Str
  characteristics : Nat
  deriving DecidableEq

/-- The fields of a `TPMDevice`. -/
def TPMDevice.asFields (d : TPMDevice) : Fields :=
  [("handle", toValue d.handle), ("vendor_id", toValue d.vendorId),
    ("spec_major", toValue d.specMajor), ("spec_minor", toValue d.specMinor),
    ("firmware_version_1", toValue d.firmwareVersion1),
    ("firmware_version_2", toValue d.firmwareVersion2),
    ("description", toValue d.description), ("characteristics", toValue d.characteristics)]

/-! ## The aggregate -/

/-- SMBIOS Type 1 product-name prefixes burned in by production for each
platform. -/
def platformPrefixes : List Str :=
  ["TRUENAS-Z".toList, "TRUENAS-X".toList, "TRUENAS-M".toList, "TRUENAS-F".toList,
    "TRUENAS-H".toList, "TRUENAS-R".toList, "TRUENAS-V".toList, "FREENAS-MINI".toList]

/-- `TRUENAS_UNKNOWN`. -/
def truenasUnknown : Str := "TRUENAS-UNKNOWN".toList

/-- Aggregate of every SMBIOS structure parsed from one host in one pass. -/
structure DMIInfo where
  smbiosVersion : Nat × Nat
  bios : Option BIOSInfo
  system : Option SystemInfo
  baseboards : List BaseboardInfo
  chassis : List ChassisInfo
  processors : List ProcessorInfo
  caches : List CacheInfo
  systemSlots : List SystemSlot
  oemStrings : List Str
  memoryArrays : List MemoryArray
  memoryDevices : List MemoryDevice
  ipmiDevices : List IPMIDevice
  tpmDevices : List TPMDevice
  rawStructures : List RawStructure
  tnModel : Str
  deriving DecidableEq

/-- `enums.is_ecc`: the value indicates ECC of any kind. -/
def isEcc (memoryErrorCorrection : Nat) : Bool :=
  [0x05, 0x06, 0x07].contains memoryErrorCorrection

/-- True if any Physical Memory Array reports an ECC mode. -/
def DMIInfo.eccMemory (d : DMIInfo) : Bool :=
  d.memoryArrays.any fun a => isEcc a.errorCorrection

/-- True if any IPMI Device Information structure is present. -/
def DMIInfo.hasIpmi (d : DMIInfo) : Bool := truthy d.ipmiDevices

/-- True if any TPM Device structure is present. -/
def DMIInfo.hasTpm (d : DMIInfo) : Bool := truthy d.tpmDevices

/-- Look up a `CacheInfo` by its SMBIOS structure handle. -/
def DMIInfo.cacheByHandle (d : DMIInfo) (handle : Nat) : Option CacheInfo :=
  d.caches.find? fun c => c.handle == handle

end TruenasPydmi
