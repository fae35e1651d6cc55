/-
  Decode/Local.lean --- a byte of the formatted area belongs to one field.

  `replaceByte` changes one byte of a structure.  The views that are not read
  from that byte are unchanged, so a record decoded from the views changes in the
  fields that are read from the byte only.  The layouts below say for every
  record which bytes each of its fields is read from; that they are separate is
  what makes a byte belong to one field.
-/
import TruenasPydmi.Decode.Total
import TruenasPydmi.Foundation.Footprint

set_option autoImplicit false

namespace TruenasPydmi

open TruenasPydmi.Foundation TruenasPydmi.Python

/-! ## The views under a changed byte -/

/-- The structure with byte `i` of its formatted area replaced. -/
def RawStructure.replaceByte (raw : RawStructure) (i : Nat) (b : UInt8) : RawStructure :=
  { raw with formatted := raw.formatted.set i b }

section

variable (raw : RawStructure) (b : UInt8) {i : Nat}

@[simp] theorem replaceByte_handle : (raw.replaceByte i b).handle = raw.handle := rfl

@[simp] theorem length_replaceByte :
    (raw.replaceByte i b).formatted.length = raw.formatted.length := by
  simp [RawStructure.replaceByte]

theorem getElem?_replaceByte (h : i < raw.formatted.length) :
    (raw.replaceByte i b).formatted[i]? = some b :=
  List.getElem?_set_self h

@[simp] theorem replaceByte_slice {j k : Nat} (h : i < j ∨ k ≤ i) :
    slice (raw.replaceByte i b).formatted j k = slice raw.formatted j k := by
  apply List.ext_getElem?
  intro n
  rw [getElem?_slice, getElem?_slice]
  split
  · exact List.getElem?_set_ne (by omega)
  · rfl

@[simp] theorem replaceByte_byte {o : Nat} (h : i < o ∨ o < i) :
    (raw.replaceByte i b).byte o = raw.byte o := by
  rw [RawStructure.byte, RawStructure.replaceByte, List.getElem?_set_ne (by omega)]
  rfl

theorem replaceByte_field {width o : Nat} (h : i < o ∨ o + width ≤ i) :
    (raw.replaceByte i b).field width o = raw.field width o := by
  rw [RawStructure.field, RawStructure.field, length_replaceByte, replaceByte_slice raw b h]

@[simp] theorem replaceByte_word {o : Nat} (h : i < o ∨ o + 2 ≤ i) :
    (raw.replaceByte i b).word o = raw.word o := replaceByte_field raw b h

@[simp] theorem replaceByte_dword {o : Nat} (h : i < o ∨ o + 4 ≤ i) :
    (raw.replaceByte i b).dword o = raw.dword o := replaceByte_field raw b h

@[simp] theorem replaceByte_qword {o : Nat} (h : i < o ∨ o + 8 ≤ i) :
    (raw.replaceByte i b).qword o = raw.qword o := replaceByte_field raw b h

@[simp] theorem replaceByte_string {o : Nat} (h : i < o ∨ o < i) :
    (raw.replaceByte i b).string o = raw.string o := by
  rw [RawStructure.string, RawStructure.string, replaceByte_byte raw b h]
  rfl

@[simp] theorem replaceByte_uuid (h : i < 4 ∨ 20 ≤ i) :
    (raw.replaceByte i b).uuid = raw.uuid := by
  rw [RawStructure.uuid, RawStructure.uuid, length_replaceByte, replaceByte_slice raw b h]

@[simp] theorem replaceByte_vendorBytes (h : 4 ≤ i) :
    (raw.replaceByte i b).vendorBytes = raw.vendorBytes := by
  rw [RawStructure.vendorBytes, RawStructure.vendorBytes, length_replaceByte,
    replaceByte_slice raw b (Or.inr h)]

/-- The SKU string is read at an offset behind the two bytes it is computed
from. -/
@[simp] theorem replaceByte_sku (h : i < 15) :
    (raw.replaceByte i b).string (raw.replaceByte i b).skuOffset =
      raw.string raw.skuOffset := by
  have hoffset : (raw.replaceByte i b).skuOffset = raw.skuOffset := by
    rw [RawStructure.skuOffset, RawStructure.skuOffset, replaceByte_byte raw b (by omega),
      replaceByte_byte raw b (by omega)]
  have hsku : 17 ≤ raw.skuOffset := Nat.le_add_right _ _
  rw [hoffset, replaceByte_string raw b (by omega)]

end

/-! ## Layouts -/

/-- What `parse_system` reads. -/
def systemLayout : Layout String :=
  [("handle", []), ("manufacturer", [span 0 1]), ("product_name", [span 1 1]),
    ("version", [span 2 1]), ("serial_number", [span 3 1]), ("uuid", [span 4 16]),
    ("wake_up_type", [span 20 1]), ("sku_number", [span 21 1]), ("family", [span 22 1])]

/-- What `parse_baseboard` reads. -/
def baseboardLayout : Layout String :=
  [("handle", []), ("manufacturer", [span 0 1]), ("product", [span 1 1]),
    ("version", [span 2 1]), ("serial_number", [span 3 1]), ("asset_tag", [span 4 1]),
    ("feature_flags", [span 5 1]), ("location_in_chassis", [span 6 1]),
    ("chassis_handle", [span 7 2]), ("board_type", [span 9 1])]

/-- What `parse_chassis` reads.  The type byte holds the lock bit, and the SKU
index stands behind the contained elements, wherever that is. -/
def chassisLayout : Layout String :=
  [("handle", []), ("manufacturer", [span 0 1]), ("type", [span 1 1]),
    ("type_locked", [span 1 1]), ("version", [span 2 1]), ("serial_number", [span 3 1]),
    ("asset_tag", [span 4 1]), ("bootup_state", [span 5 1]),
    ("power_supply_state", [span 6 1]), ("thermal_state", [span 7 1]),
    ("security_status", [span 8 1]), ("height_u", [span 13 1]), ("power_cords", [span 14 1]),
    ("sku_number", [rest 15])]

/-- What `parse_processor` reads. -/
def processorLayout : Layout String :=
  [("handle", []), ("socket_designation", [span 0 1]), ("type", [span 1 1]),
    ("family", [span 2 1, span 36 2]), ("manufacturer", [span 3 1]),
    ("processor_id", [span 4 8]), ("version", [span 12 1]), ("voltage_raw", [span 13 1]),
    ("external_clock_mhz", [span 14 2]), ("max_speed_mhz", [span 16 2]),
    ("current_speed_mhz", [span 18 2]), ("status", [span 20 1]), ("upgrade", [span 21 1]),
    ("l1_cache_handle", [span 22 2]), ("l2_cache_handle", [span 24 2]),
    ("l3_cache_handle", [span 26 2]), ("serial_number", [span 28 1]),
    ("asset_tag", [span 29 1]), ("part_number", [span 30 1]),
    ("core_count", [span 31 1, span 38 2]), ("cores_enabled", [span 32 1, span 40 2]),
    ("thread_count", [span 33 1, span 42 2]), ("threads_enabled", [span 44 2]),
    ("characteristics", [span 34 2])]

/-- What `parse_cache` reads. -/
def cacheLayout : Layout String :=
  [("handle", []), ("socket_designation", [span 0 1]), ("configuration", [span 1 2]),
    ("max_size_bytes", [span 3 2, span 15 4]), ("installed_size_bytes", [span 5 2, span 19 4]),
    ("supported_sram_types", [span 7 2]), ("current_sram_type", [span 9 2]),
    ("speed_nanoseconds", [span 11 1]), ("error_correction", [span 12 1]),
    ("system_cache_type", [span 13 1]), ("associativity", [span 14 1])]

/-- What `parse_system_slot` reads. -/
def systemSlotLayout : Layout String :=
  [("handle", []), ("designation", [span 0 1]), ("type", [span 1 1]), ("bus_width", [span 2 1]),
    ("current_usage", [span 3 1]), ("length", [span 4 1]), ("slot_id", [span 5 2]),
    ("characteristics_1", [span 7 1]), ("characteristics_2", [span 8 1]),
    ("segment_group", [span 9 2]), ("bus_number", [span 11 1]),
    ("device_function", [span 12 1])]

/-- What `parse_memory_array` reads. -/
def memoryArrayLayout : Layout String :=
  [("handle", []), ("location", [span 0 1]), ("use", [span 1 1]),
    ("error_correction", [span 2 1]), ("max_capacity_bytes", [span 3 4, span 11 8]),
    ("error_info_handle", [span 7 2]), ("device_count", [span 9 2])]

/-- What `parse_memory_device` reads. -/
def memoryDeviceLayout : Layout String :=
  [("handle", []), ("array_handle", [span 0 2]), ("error_info_handle", [span 2 2]),
    ("total_width_bits", [span 4 2]), ("data_width_bits", [span 6 2]),
    ("size_bytes", [span 8 2, span 24 4]), ("form_factor", [span 10 1]),
    ("device_set", [span 11 1]), ("locator", [span 12 1]), ("bank_locator", [span 13 1]),
    ("type", [span 14 1]), ("type_detail", [span 15 2]), ("speed_mts", [span 17 2]),
    ("manufacturer", [span 19 1]), ("serial_number", [span 20 1]), ("asset_tag", [span 21 1]),
    ("part_number", [span 22 1]), ("rank", [span 23 1]), ("configured_speed_mts", [span 28 2]),
    ("min_voltage_mv", [span 30 2]), ("max_voltage_mv", [span 32 2]),
    ("configured_voltage_mv", [span 34 2]), ("memory_technology", [span 36 1]),
    ("operating_mode_capability", [span 37 2]), ("module_firmware_version", [span 39 1]),
    ("module_manufacturer_id", [span 40 2]), ("module_product_id", [span 42 2]),
    ("subsystem_controller_manufacturer_id", [span 44 2]),
    ("subsystem_controller_product_id", [span 46 2]), ("non_volatile_size_bytes", [span 48 8]),
    ("volatile_size_bytes", [span 56 8]), ("cache_size_bytes", [span 64 8]),
    ("logical_size_bytes", [span 72 8]), ("extended_speed_mts", [span 80 4]),
    ("extended_configured_speed_mts", [span 84 4])]

/-- What `parse_ipmi_device` reads.  One byte holds both halves of the version. -/
def ipmiDeviceLayout : Layout String :=
  [("handle", []), ("interface_type", [span 0 1]), ("spec_version_major", [span 1 1]),
    ("spec_version_minor", [span 1 1]), ("i2c_slave_address", [span 2 1]),
    ("nv_storage_address", [span 3 1]), ("base_address", [span 4 8]),
    ("base_address_modifier", [span 12 1]), ("interrupt_number", [span 13 1])]

/-- What `parse_tpm_device` reads. -/
def tpmDeviceLayout : Layout String :=
  [("handle", []), ("vendor_id", [span 0 4]), ("spec_major", [span 4 1]),
    ("spec_minor", [span 5 1]), ("firmware_version_1", [span 6 4]),
    ("firmware_version_2", [span 10 4]), ("description", [span 14 1]),
    ("characteristics", [span 15 8])]

/-! ## The records under a changed byte -/

section

variable (raw : RawStructure) (i : Nat) (b : UInt8)

theorem toSystem_spares : Spares i systemLayout raw.toSystem.asFields
    (raw.replaceByte i b).toSystem.asFields := by
  simp +contextual (disch := omega) [systemLayout, SystemInfo.asFields, RawStructure.toSystem]

theorem toBaseboard_spares : Spares i baseboardLayout raw.toBaseboard.asFields
    (raw.replaceByte i b).toBaseboard.asFields := by
  simp +contextual (disch := omega) [baseboardLayout, BaseboardInfo.asFields,
    RawStructure.toBaseboard]

theorem toChassis_spares : Spares i chassisLayout raw.toChassis.asFields
    (raw.replaceByte i b).toChassis.asFields := by
  simp +contextual (disch := omega) [chassisLayout, ChassisInfo.asFields, RawStructure.toChassis]

theorem toProcessor_spares : Spares i processorLayout raw.toProcessor.asFields
    (raw.replaceByte i b).toProcessor.asFields := by
  simp +contextual (disch := omega) [processorLayout, ProcessorInfo.asFields,
    RawStructure.toProcessor]

theorem toCache_spares : Spares i cacheLayout raw.toCache.asFields
    (raw.replaceByte i b).toCache.asFields := by
  simp +contextual (disch := omega) [cacheLayout, CacheInfo.asFields, RawStructure.toCache]

theorem toSystemSlot_spares : Spares i systemSlotLayout raw.toSystemSlot.asFields
    (raw.replaceByte i b).toSystemSlot.asFields := by
  simp +contextual (disch := omega) [systemSlotLayout, SystemSlot.asFields,
    RawStructure.toSystemSlot]

theorem toMemoryArray_spares : Spares i memoryArrayLayout raw.toMemoryArray.asFields
    (raw.replaceByte i b).toMemoryArray.asFields := by
  simp +contextual (disch := omega) [memoryArrayLayout, MemoryArray.asFields,
    RawStructure.toMemoryArray]

theorem toMemoryDevice_spares : Spares i memoryDeviceLayout raw.toMemoryDevice.asFields
    (raw.replaceByte i b).toMemoryDevice.asFields := by
  simp +contextual (disch := omega) [memoryDeviceLayout, MemoryDevice.asFields,
    RawStructure.toMemoryDevice]

theorem toIpmiDevice_spares : Spares i ipmiDeviceLayout raw.toIpmiDevice.asFields
    (raw.replaceByte i b).toIpmiDevice.asFields := by
  simp +contextual (disch := omega) [ipmiDeviceLayout, IPMIDevice.asFields,
    RawStructure.toIpmiDevice]

theorem toTpmDevice_spares : Spares i tpmDeviceLayout raw.toTpmDevice.asFields
    (raw.replaceByte i b).toTpmDevice.asFields := by
  simp +contextual (disch := omega) [tpmDeviceLayout, TPMDevice.asFields,
    RawStructure.toTpmDevice]

end

/-! ## A byte belongs to one field -/

/-- Whatever byte of the structure is replaced, and whatever by, the parser returns
a record before and after, and the fields in which the two differ are of one
group. -/
def ByteLocalAt {α γ : Type} (parse : RawStructure → Except BuiltinError α)
    (asFields : α → Fields) (group : String → γ) (raw : RawStructure) : Prop :=
  ∀ (i : Nat) (b : UInt8), i < raw.formatted.length → ∃ before after,
    parse raw = .ok before ∧ parse (raw.replaceByte i b) = .ok after ∧
    ∀ m ∈ changed (asFields before) (asFields after),
      ∀ n ∈ changed (asFields before) (asFields after), group m = group n

/-- The parser decodes no byte of any structure into two groups of fields. -/
def ByteLocal {α γ : Type} (parse : RawStructure → Except BuiltinError α)
    (asFields : α → Fields) (group : String → γ) : Prop :=
  ∀ raw, ByteLocalAt parse asFields group raw

theorem byteLocal_of_layout {α γ : Type} {parse : RawStructure → Except BuiltinError α}
    {asFields : α → Fields} {group : String → γ} {view : RawStructure → α}
    {layout : Layout String} (heq : ∀ raw, parse raw = .ok (view raw))
    (hspares : ∀ (raw : RawStructure) (i : Nat) (b : UInt8),
      Spares i layout (asFields (view raw)) (asFields (view (raw.replaceByte i b))))
    (hsep : layout.Separate group) : ByteLocal parse asFields group :=
  fun raw i b _ => ⟨_, _, heq _, heq _, fun _ hm _ hn =>
    (hspares raw i b).group_eq_of_mem_changed hsep hm hn⟩

/-- The lock bit of a chassis is a bit of its type byte: they count as one
field. -/
def chassisGroup (name : String) : String := if name = "type_locked" then "type" else name

/-- The two halves of an IPMI version are the halves of one byte: they count as
one field. -/
def ipmiDeviceGroup (name : String) : String :=
  if name = "spec_version_minor" then "spec_version_major" else name

/-- No parser reads one byte into two unrelated fields. -/
theorem parsers_byteLocal :
    ByteLocal parseSystem SystemInfo.asFields id ∧
    ByteLocal parseBaseboard BaseboardInfo.asFields id ∧
    ByteLocal parseChassis ChassisInfo.asFields chassisGroup ∧
    ByteLocal parseProcessor ProcessorInfo.asFields id ∧
    ByteLocal parseCache CacheInfo.asFields id ∧
    ByteLocal parseSystemSlot SystemSlot.asFields id ∧
    ByteLocal parseMemoryArray MemoryArray.asFields id ∧
    ByteLocal parseMemoryDevice MemoryDevice.asFields id ∧
    ByteLocal parseIpmiDevice IPMIDevice.asFields ipmiDeviceGroup ∧
    ByteLocal parseTpmDevice TPMDevice.asFields id := by
  refine ⟨?_, ?_, ?_, ?_, ?_, ?_, ?_, ?_, ?_, ?_⟩
  · exact byteLocal_of_layout parseSystem_eq toSystem_spares (by decide)
  · exact byteLocal_of_layout parseBaseboard_eq toBaseboard_spares (by decide)
  · exact byteLocal_of_layout parseChassis_eq toChassis_spares (by decide)
  · exact byteLocal_of_layout parseProcessor_eq toProcessor_spares (by decide)
  · exact byteLocal_of_layout parseCache_eq toCache_spares (by decide)
  · exact byteLocal_of_layout parseSystemSlot_eq toSystemSlot_spares (by decide)
  · exact byteLocal_of_layout parseMemoryArray_eq toMemoryArray_spares (by decide)
  · exact byteLocal_of_layout parseMemoryDevice_eq toMemoryDevice_spares (by decide)
  · exact byteLocal_of_layout parseIpmiDevice_eq toIpmiDevice_spares (by decide)
  · exact byteLocal_of_layout parseTpmDevice_eq toTpmDevice_spares (by decide)

end TruenasPydmi
