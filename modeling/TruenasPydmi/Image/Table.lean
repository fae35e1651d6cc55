/-
  Image/Table.lean --- whole tables of records, written and read.

  A table is a list of records in any order, each written as its structure, and an
  End-of-Table structure.  `readTables` gives the records back: the first BIOS and
  the first system, and every other record in the order of the table
  (`readTables_records`).
-/
import TruenasPydmi.Image.RoundTrip
import TruenasPydmi.Read.Outcome

set_option autoImplicit false

namespace TruenasPydmi

open TruenasPydmi.Foundation TruenasPydmi.Python

/-! ## Records -/

/-- A record of any of the types the parsers know. -/
inductive Record where
  | bios (b : BIOSInfo)
  | system (s : SystemInfo)
  | baseboard (b : BaseboardInfo)
  | chassis (c : ChassisInfo)
  | processor (p : ProcessorInfo)
  | cache (c : CacheInfo)
  | systemSlot (s : SystemSlot)
  | oemStrings (handle : Nat) (strings : List Str)
  | memoryArray (a : MemoryArray)
  | memoryDevice (d : MemoryDevice)
  | ipmiDevice (d : IPMIDevice)
  | tpmDevice (d : TPMDevice)

namespace Record

/-- The structure of a record. -/
def toRaw : Record → RawStructure
  | bios b => b.toRaw
  | system s => s.toRaw
  | baseboard b => b.toRaw
  | chassis c => c.toRaw
  | processor p => p.toRaw
  | cache c => c.toRaw
  | systemSlot s => s.toRaw
  | oemStrings handle strings => oemStringsRaw handle strings
  | memoryArray a => a.toRaw
  | memoryDevice d => d.toRaw
  | ipmiDevice d => d.toRaw
  | tpmDevice d => d.toRaw

/-- A record that a complete structure can hold. -/
def Valid : Record → Prop
  | bios b => b.WellFormed ∧ b.Complete
  | system s => s.WellFormed
  | baseboard b => b.WellFormed
  | chassis c => c.WellFormed
  | processor p => p.WellFormed ∧ p.Complete
  | cache c => c.WellFormed
  | systemSlot s => s.WellFormed ∧ s.Complete
  | oemStrings handle strings => handle < 0x10000 ∧ ∀ s ∈ strings, Text s ∧ s ≠ []
  | memoryArray a => a.WellFormed
  | memoryDevice d => d.WellFormed
  | ipmiDevice d => d.WellFormed
  | tpmDevice d => d.WellFormed

/-! The record, if it is of one type. -/

def asBios : Record → Option BIOSInfo
  | bios b => some b
  | _ => none

def asSystem : Record → Option SystemInfo
  | system s => some s
  | _ => none

def asBaseboard : Record → Option BaseboardInfo
  | baseboard b => some b
  | _ => none

def asChassis : Record → Option ChassisInfo
  | chassis c => some c
  | _ => none

def asProcessor : Record → Option ProcessorInfo
  | processor p => some p
  | _ => none

def asCache : Record → Option CacheInfo
  | cache c => some c
  | _ => none

def asSystemSlot : Record → Option SystemSlot
  | systemSlot s => some s
  | _ => none

def asOemStrings : Record → Option (List Str)
  | oemStrings _ strings => some strings
  | _ => none

def asMemoryArray : Record → Option MemoryArray
  | memoryArray a => some a
  | _ => none

def asMemoryDevice : Record → Option MemoryDevice
  | memoryDevice d => some d
  | _ => none

def asIpmiDevice : Record → Option IPMIDevice
  | ipmiDevice d => some d
  | _ => none

def asTpmDevice : Record → Option TPMDevice
  | tpmDevice d => some d
  | _ => none

end Record

/-- The End-of-Table structure. -/
def endOfTable (handle : Nat) : RawStructure := ⟨127, handle, [], []⟩

/-- The structures of a table of records. -/
def tableOf (records : List Record) (handle : Nat) : List RawStructure :=
  records.map Record.toRaw ++ [endOfTable handle]

/-- The aggregate of a table of records. -/
def collect (smbiosVersion : Nat × Nat) (records : List Record) (handle : Nat) : DMIInfo where
  smbiosVersion := smbiosVersion
  bios := (records.filterMap Record.asBios).head?
  system := (records.filterMap Record.asSystem).head?
  baseboards := records.filterMap Record.asBaseboard
  chassis := records.filterMap Record.asChassis
  processors := records.filterMap Record.asProcessor
  caches := records.filterMap Record.asCache
  systemSlots := records.filterMap Record.asSystemSlot
  oemStrings := (records.filterMap Record.asOemStrings).flatten
  memoryArrays := records.filterMap Record.asMemoryArray
  memoryDevices := records.filterMap Record.asMemoryDevice
  ipmiDevices := records.filterMap Record.asIpmiDevice
  tpmDevices := records.filterMap Record.asTpmDevice
  rawStructures := tableOf records handle
  tnModel := platformModel (records.filterMap Record.asSystem).head?
    (records.filterMap Record.asBaseboard)

/-! ## The structures can be encoded -/

section

variable {type handle : Nat} {texts : List Str} {cells : (Nat → Cell) → List Cell}

theorem encodable_build (htype : type < 256) (hhandle : handle < 0x10000)
    (htexts : ∀ s ∈ texts, Text s)
    (hlength : ((cells (textCell texts)).map Cell.size).sum ≤ 251) :
    Encodable (build type handle texts cells) ∧
      ∀ s ∈ (build type handle texts cells).strings, s ≠ [] := by
  have hmem : ∀ s ∈ (build type handle texts cells).strings, Text s :=
    fun s hs => htexts s (List.mem_filter.mp hs).1
  refine ⟨⟨htype, hhandle, (length_image _).trans_le hlength, fun s hs => (hmem s hs).nul_notMem,
    fun s hs => (hmem s hs).latin1, fun s hs => (hmem s hs).stripped⟩, fun s hs => ?_⟩
  simpa [present] using (List.mem_filter.mp hs).2

end

theorem Record.encodable {r : Record} (h : r.Valid) :
    Encodable r.toRaw ∧ ∀ s ∈ r.toRaw.strings, s ≠ [] := by
  cases r with
  | bios b =>
      have hlength := h.1.extension
      have h : b.WellFormed := h.1
      rw [toRaw, BIOSInfo.toRaw]
      refine encodable_build (by decide) h.handle
        (by simp [h.vendor, h.version, h.releaseDateRaw]) ?_
      simp only [List.map_cons, List.map_nil, List.sum_cons, List.sum_nil, Cell.size, textCell]
      omega
  | system s =>
      have h : s.WellFormed := h
      rw [toRaw, SystemInfo.toRaw]
      exact encodable_build (by decide) h.handle
        (by simp [h.manufacturer, h.productName, h.version, h.serialNumber, h.skuNumber,
          h.family]) (by simp [Cell.size, textCell])
  | baseboard b =>
      have h : b.WellFormed := h
      rw [toRaw, BaseboardInfo.toRaw]
      exact encodable_build (by decide) h.handle
        (by simp [h.manufacturer, h.product, h.version, h.serialNumber, h.assetTag,
          h.locationInChassis]) (by simp [Cell.size, textCell])
  | chassis c =>
      have h : c.WellFormed := h
      rw [toRaw, ChassisInfo.toRaw]
      exact encodable_build (by decide) h.handle
        (by simp [h.manufacturer, h.version, h.serialNumber, h.assetTag, h.skuNumber])
        (by simp [Cell.size, textCell])
  | processor p =>
      have h : p.WellFormed := h.1
      rw [toRaw, ProcessorInfo.toRaw]
      exact encodable_build (by decide) h.handle
        (by simp [h.socketDesignation, h.manufacturer, h.version, h.serialNumber, h.assetTag,
          h.partNumber]) (by simp [Cell.size, textCell])
  | cache c =>
      have h : c.WellFormed := h
      rw [toRaw, CacheInfo.toRaw]
      exact encodable_build (by decide) h.handle
        (by simp [h.socketDesignation]) (by simp [Cell.size, textCell])
  | systemSlot s =>
      have h : s.WellFormed := h.1
      rw [toRaw, SystemSlot.toRaw]
      exact encodable_build (by decide) h.handle
        (by simp [h.designation]) (by simp [Cell.size, textCell])
  | oemStrings handle strings =>
      rw [toRaw, oemStringsRaw]
      exact encodable_build (by decide) h.1 (fun s hs => (h.2 s hs).1) (by simp [Cell.size])
  | memoryArray a =>
      have h : a.WellFormed := h
      rw [toRaw, MemoryArray.toRaw]
      exact encodable_build (by decide) h.handle
        (by simp) (by simp [Cell.size])
  | memoryDevice d =>
      have h : d.WellFormed := h
      rw [toRaw, MemoryDevice.toRaw]
      exact encodable_build (by decide) h.handle
        (by simp [h.locator, h.bankLocator, h.manufacturer, h.serialNumber, h.assetTag,
          h.partNumber, h.moduleFirmwareVersion]) (by simp [Cell.size, textCell])
  | ipmiDevice d =>
      have h : d.WellFormed := h
      rw [toRaw, IPMIDevice.toRaw]
      exact encodable_build (by decide) h.handle
        (by simp) (by simp [Cell.size])
  | tpmDevice d =>
      have h : d.WellFormed := h
      rw [toRaw, TPMDevice.toRaw]
      exact encodable_build (by decide) h.handle
        (by simp [h.description]) (by simp [Cell.size, textCell])

theorem encodable_endOfTable {handle : Nat} (h : handle < 0x10000) :
    Encodable (endOfTable handle) where
  type_lt := show 127 < 256 by decide
  handle_lt := h
  formatted_le := Nat.zero_le 251
  nul_notMem := nofun
  latin1 := nofun
  stripped := nofun

theorem Record.type_toRaw_ne (r : Record) : r.toRaw.type ≠ 127 := by
  cases r <;> exact Nat.ne_of_beq_eq_false rfl

/-! ## Reading the records back -/

section

variable {α : Type} {typeId : Nat} {proj : Record → Option α} {view : RawStructure → α}

/-- The structures of one type are the records of that type. -/
theorem map_ofType_toRaw {records : List Record}
    (h : ∀ r ∈ records, r.toRaw.type = typeId ∧ proj r = some (view r.toRaw) ∨
      r.toRaw.type ≠ typeId ∧ proj r = none) :
    ((records.map Record.toRaw).filter fun r => r.type == typeId).map view =
      records.filterMap proj := by
  induction records with
  | nil => rfl
  | cons r records ih =>
      rw [List.forall_mem_cons] at h
      rcases h.1 with ⟨htype, hproj⟩ | ⟨htype, hproj⟩
      · rw [List.map_cons, List.filter_cons_of_pos (by simpa using htype), List.map_cons,
          ih h.2, List.filterMap_cons_some hproj]
      · rw [List.map_cons, List.filter_cons_of_neg (by simpa using htype), ih h.2,
          List.filterMap_cons_none hproj]

/-- The End-of-Table is of no type that is looked for. -/
theorem map_ofType_tableOf {records : List Record} (handle : Nat) (hne : typeId ≠ 127)
    (h : ∀ r ∈ records, r.toRaw.type = typeId ∧ proj r = some (view r.toRaw) ∨
      r.toRaw.type ≠ typeId ∧ proj r = none) :
    ((tableOf records handle).filter fun r => r.type == typeId).map view =
      records.filterMap proj := by
  rw [tableOf, List.filter_append, List.filter_cons_of_neg (by simpa [endOfTable] using hne.symm),
    List.filter_nil, List.append_nil, map_ofType_toRaw h]

end

/-- Every record of a table is read back. -/
theorem dmiInfo_tableOf {records : List Record} (h : ∀ r ∈ records, r.Valid)
    (smbiosVersion : Nat × Nat) (handle : Nat) :
    dmiInfo smbiosVersion (tableOf records handle) = collect smbiosVersion records handle := by
  let ofType (typeId : Nat) := (tableOf records handle).filter fun r => r.type == typeId
  have hbios : (ofType 0).map RawStructure.toBios = records.filterMap Record.asBios := by
    refine map_ofType_tableOf handle (by decide) fun r hr => ?_
    cases r with
    | bios b => exact Or.inl ⟨rfl, (congrArg some (b.toBios_toRaw (h _ hr).1 (h _ hr).2)).symm⟩
    | _ => exact Or.inr ⟨Nat.ne_of_beq_eq_false rfl, rfl⟩
  have hsystem : (ofType 1).map RawStructure.toSystem = records.filterMap Record.asSystem := by
    refine map_ofType_tableOf handle (by decide) fun r hr => ?_
    cases r with
    | system s => exact Or.inl ⟨rfl, (congrArg some (s.toSystem_toRaw (h _ hr))).symm⟩
    | _ => exact Or.inr ⟨Nat.ne_of_beq_eq_false rfl, rfl⟩
  have hbaseboard : (ofType 2).map RawStructure.toBaseboard =
      records.filterMap Record.asBaseboard := by
    refine map_ofType_tableOf handle (by decide) fun r hr => ?_
    cases r with
    | baseboard b => exact Or.inl ⟨rfl, (congrArg some (b.toBaseboard_toRaw (h _ hr))).symm⟩
    | _ => exact Or.inr ⟨Nat.ne_of_beq_eq_false rfl, rfl⟩
  have hchassis : (ofType 3).map RawStructure.toChassis = records.filterMap Record.asChassis := by
    refine map_ofType_tableOf handle (by decide) fun r hr => ?_
    cases r with
    | chassis c => exact Or.inl ⟨rfl, (congrArg some (c.toChassis_toRaw (h _ hr))).symm⟩
    | _ => exact Or.inr ⟨Nat.ne_of_beq_eq_false rfl, rfl⟩
  have hprocessor : (ofType 4).map RawStructure.toProcessor =
      records.filterMap Record.asProcessor := by
    refine map_ofType_tableOf handle (by decide) fun r hr => ?_
    cases r with
    | processor p =>
        exact Or.inl ⟨rfl, (congrArg some (p.toProcessor_toRaw (h _ hr).1 (h _ hr).2)).symm⟩
    | _ => exact Or.inr ⟨Nat.ne_of_beq_eq_false rfl, rfl⟩
  have hcache : (ofType 7).map RawStructure.toCache = records.filterMap Record.asCache := by
    refine map_ofType_tableOf handle (by decide) fun r hr => ?_
    cases r with
    | cache c => exact Or.inl ⟨rfl, (congrArg some (c.toCache_toRaw (h _ hr))).symm⟩
    | _ => exact Or.inr ⟨Nat.ne_of_beq_eq_false rfl, rfl⟩
  have hsystemSlot : (ofType 9).map RawStructure.toSystemSlot =
      records.filterMap Record.asSystemSlot := by
    refine map_ofType_tableOf handle (by decide) fun r hr => ?_
    cases r with
    | systemSlot s =>
        exact Or.inl ⟨rfl, (congrArg some (s.toSystemSlot_toRaw (h _ hr).1 (h _ hr).2)).symm⟩
    | _ => exact Or.inr ⟨Nat.ne_of_beq_eq_false rfl, rfl⟩
  have hmemoryArray : (ofType 16).map RawStructure.toMemoryArray =
      records.filterMap Record.asMemoryArray := by
    refine map_ofType_tableOf handle (by decide) fun r hr => ?_
    cases r with
    | memoryArray a => exact Or.inl ⟨rfl, (congrArg some (a.toMemoryArray_toRaw (h _ hr))).symm⟩
    | _ => exact Or.inr ⟨Nat.ne_of_beq_eq_false rfl, rfl⟩
  have hmemoryDevice : (ofType 17).map RawStructure.toMemoryDevice =
      records.filterMap Record.asMemoryDevice := by
    refine map_ofType_tableOf handle (by decide) fun r hr => ?_
    cases r with
    | memoryDevice d => exact Or.inl ⟨rfl, (congrArg some (d.toMemoryDevice_toRaw (h _ hr))).symm⟩
    | _ => exact Or.inr ⟨Nat.ne_of_beq_eq_false rfl, rfl⟩
  have hipmiDevice : (ofType 38).map RawStructure.toIpmiDevice =
      records.filterMap Record.asIpmiDevice := by
    refine map_ofType_tableOf handle (by decide) fun r hr => ?_
    cases r with
    | ipmiDevice d => exact Or.inl ⟨rfl, (congrArg some (d.toIpmiDevice_toRaw (h _ hr))).symm⟩
    | _ => exact Or.inr ⟨Nat.ne_of_beq_eq_false rfl, rfl⟩
  have htpmDevice : (ofType 43).map RawStructure.toTpmDevice =
      records.filterMap Record.asTpmDevice := by
    refine map_ofType_tableOf handle (by decide) fun r hr => ?_
    cases r with
    | tpmDevice d => exact Or.inl ⟨rfl, (congrArg some (d.toTpmDevice_toRaw (h _ hr))).symm⟩
    | _ => exact Or.inr ⟨Nat.ne_of_beq_eq_false rfl, rfl⟩
  have hoem : (ofType 11).map RawStructure.strings = records.filterMap Record.asOemStrings := by
    refine map_ofType_tableOf handle (by decide) fun r hr => ?_
    cases r with
    | oemStrings n strings =>
        have hkept : strings.filter present = strings :=
          List.filter_eq_self.mpr fun s hs => by simpa [present] using ((h _ hr).2 s hs).2
        exact Or.inl ⟨rfl, congrArg some hkept.symm⟩
    | _ => exact Or.inr ⟨Nat.ne_of_beq_eq_false rfl, rfl⟩
  unfold dmiInfo collect
  simp only [find?_ofType, List.flatMap_def]
  rw [DMIInfo.mk.injEq]
  exact ⟨rfl, congrArg List.head? hbios, congrArg List.head? hsystem, hbaseboard, hchassis,
    hprocessor, hcache, hsystemSlot, congrArg List.flatten hoem, hmemoryArray, hmemoryDevice,
    hipmiDevice, htpmDevice, rfl,
    congrArg₂ platformModel (congrArg List.head? hsystem) hbaseboard⟩

/-- The walker reads a table of valid records to its end. -/
theorem walkStructures_tableOf {records : List Record} (h : ∀ r ∈ records, r.Valid)
    {handle : Nat} (hhandle : handle < 0x10000) (junk : Bytes) {n : Nat}
    (hn : n = 0 ∨ (encode (tableOf records handle)).length ≤ n) :
    walkStructures (encode (tableOf records handle) ++ junk) n =
      .ok (tableOf records handle) := by
  have hencodable : ∀ r ∈ tableOf records handle, Encodable r ∧ ∀ s ∈ r.strings, s ≠ [] := by
    intro r hr
    rcases List.mem_append.mp hr with hr | hr
    · obtain ⟨record, hrecord, rfl⟩ := List.mem_map.mp hr
      exact record.encodable (h record hrecord)
    · obtain rfl := List.mem_singleton.mp hr
      exact ⟨encodable_endOfTable hhandle, nofun⟩
  have htype : ∀ r ∈ (tableOf records handle).dropLast, r.type ≠ 127 := by
    rw [tableOf, List.dropLast_concat]
    intro r hr
    obtain ⟨record, -, rfl⟩ := List.mem_map.mp hr
    exact record.type_toRaw_ne
  exact walkStructures_encode (fun r hr => (hencodable r hr).1)
    (fun r hr => delimited_of_ne_nil (hencodable r hr).2) htype junk
    (Or.inl ⟨⟨endOfTable handle, List.getLast?_concat, rfl⟩, hn⟩)

/-- A table of valid records, behind any entry point that declares it and before any
other bytes, is read as those records. -/
theorem readTables_records (records : List Record) (h : ∀ r ∈ records, r.Valid) (handle : Nat)
    (hhandle : handle < 0x10000) (ep junk : Bytes) (major minor : UInt8) (n : Nat)
    (hep : Declares ep major minor n)
    (hn : n = 0 ∨ (encode (tableOf records handle)).length ≤ n) :
    readTables ep (encode (tableOf records handle) ++ junk) =
      .ok (collect (major.toNat, minor.toNat) records handle) := by
  obtain ⟨revision, hparse⟩ := parseEntryPoint_of_declares hep
  rw [readTables_of_parse hparse (walkStructures_tableOf h hhandle junk hn), dmiInfo_tableOf h]

/-- An IPMI device and an OEM string, behind a `_SM3_` entry point without a length. -/
theorem readTables_records_ipmi :
    readTables [95, 83, 77, 51, 95, 0, 24, 3, 2, 0, 1, 0, 0, 0, 0, 0, 0, 0, 0, 0, 0, 0, 0, 0]
        (encode (tableOf [.ipmiDevice ⟨0x26, 1, 2, 0, 0x20, 0xFF, 0xCA3, 0, 0⟩,
          .oemStrings 0x0B [['O', 'K']]] 0x7F) ++ [1, 2]) =
      .ok (collect (3, 2) [.ipmiDevice ⟨0x26, 1, 2, 0, 0x20, 0xFF, 0xCA3, 0, 0⟩,
        .oemStrings 0x0B [['O', 'K']]] 0x7F) := by
  have hvalid : ∀ r ∈ [Record.ipmiDevice ⟨0x26, 1, 2, 0, 0x20, 0xFF, 0xCA3, 0, 0⟩,
      .oemStrings 0x0B [['O', 'K']]], r.Valid := by
    refine List.forall_mem_cons.mpr ⟨?_, List.forall_mem_singleton.mpr ⟨by decide, ?_⟩⟩
    · exact ⟨by decide, by decide, by decide, by decide, by decide, by decide, by decide,
        by decide, by decide⟩
    · refine List.forall_mem_singleton.mpr ⟨⟨by decide, ?_, rfl⟩, List.cons_ne_nil _ _⟩
      exact List.forall_mem_cons.mpr ⟨by decide, List.forall_mem_singleton.mpr (by decide)⟩
  exact readTables_records _ hvalid 0x7F (by decide) _ [1, 2] 3 2 0
    (.sm3 (by decide) (by decide) (by decide) (by decide) (by decide)) (Or.inl rfl)

end TruenasPydmi
