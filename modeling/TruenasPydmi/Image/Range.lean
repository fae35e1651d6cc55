/-
  Image/Range.lean --- which records can be read at all.

  Whatever the bytes of the tables are, the records read from them are well-formed:
  every number fits its field, no number is the one that stands for nothing, every
  text is a stripped latin-1 text without NULs.  Together with the round trip this
  gives the exact range of each parser (`records_range`).
-/
import TruenasPydmi.Image.Table

set_option autoImplicit false

namespace TruenasPydmi

open TruenasPydmi.Foundation TruenasPydmi.Python

/-! ## The views -/

section

variable (raw : RawStructure) (o : Nat)

theorem byte_lt : ∀ n ∈ raw.byte o, n < 0x100 := by
  intro n hn
  obtain ⟨b, -, rfl⟩ := Option.map_eq_some_iff.mp hn
  exact b.toNat_lt

theorem word_lt : ∀ n ∈ raw.word o, n < 0x10000 := fun _ => field_lt

theorem dword_lt : ∀ n ∈ raw.dword o, n < 0x100000000 := fun _ => field_lt

theorem qword_lt : ∀ n ∈ raw.qword o, n < 0x10000000000000000 := fun _ => field_lt

theorem orZero_byte_lt : orZero (raw.byte o) < 0x100 := orZero_lt (byte_lt raw o) (by decide)

theorem orZero_word_lt : orZero (raw.word o) < 0x10000 := orZero_lt (word_lt raw o) (by decide)

theorem orZero_dword_lt : orZero (raw.dword o) < 0x100000000 :=
  orZero_lt (dword_lt raw o) (by decide)

theorem orZero_qword_lt : orZero (raw.qword o) < 0x10000000000000000 :=
  orZero_lt (qword_lt raw o) (by decide)

variable {raw}

theorem text_string (h : Encodable raw) : Text (raw.string o) := by
  rw [RawStructure.string, RawStructure.nthString]
  split
  · exact Text.nil
  · rw [List.getD_eq_getElem?_getD]
    cases hs : raw.strings[orZero (raw.byte o) - 1]? with
    | none => exact Text.nil
    | some s =>
        have hmem := List.mem_of_getElem? hs
        exact ⟨h.nul_notMem s hmem, h.latin1 s hmem, h.stripped s hmem⟩

end

/-! ## The records -/

section

variable {raw : RawStructure}

theorem toBios_wellFormed (h : Encodable raw) : raw.toBios.WellFormed where
  handle := h.handle_lt
  vendor := text_string 0 h
  version := text_string 1 h
  releaseDate := rfl
  releaseDateRaw := text_string 4 h
  romSize := by
    show RomSize (romSizeWord (raw.formatted.drop 14)) (decodeRomSize (raw.byte 5) (raw.word 20))
    rw [romSizeWord_extension]
    cases hb : raw.byte 5 with
    | none => exact Or.inl rfl
    | some k =>
        have hk := byte_lt raw 5 k hb
        by_cases hff : k = 0xFF
        · rw [hff]
          exact Or.inr (Or.inr rfl)
        · exact Or.inr (Or.inl ⟨k, by omega, decodeRomSize_legacy hff⟩)
  biosMajor := byte_of_extension raw 2
  biosMinor := byte_of_extension raw 3
  ecMajor := byte_of_extension raw 4
  ecMinor := byte_of_extension raw 5
  characteristics := orZero_qword_lt raw 6
  extension := by
    have := h.formatted_le
    show (raw.formatted.drop 14).length ≤ 237
    rw [List.length_drop]
    omega

theorem toSystem_wellFormed (h : Encodable raw) : raw.toSystem.WellFormed where
  handle := h.handle_lt
  manufacturer := text_string 0 h
  productName := text_string 1 h
  version := text_string 2 h
  serialNumber := text_string 3 h
  uuid := uuid_ne_zero raw
  wakeUpType := orZero_byte_lt raw 20
  skuNumber := text_string 21 h
  family := text_string 22 h

theorem toBaseboard_wellFormed (h : Encodable raw) : raw.toBaseboard.WellFormed where
  handle := h.handle_lt
  manufacturer := text_string 0 h
  product := text_string 1 h
  version := text_string 2 h
  serialNumber := text_string 3 h
  assetTag := text_string 4 h
  featureFlags := orZero_byte_lt raw 5
  locationInChassis := text_string 6 h
  chassisHandle := orZero_word_lt raw 7
  boardType := orZero_byte_lt raw 9

theorem toChassis_wellFormed (h : Encodable raw) : raw.toChassis.WellFormed where
  handle := h.handle_lt
  manufacturer := text_string 0 h
  type := Nat.and_lt_two_pow _ (show 0x7F < 2 ^ 7 by decide)
  version := text_string 2 h
  serialNumber := text_string 3 h
  assetTag := text_string 4 h
  bootupState := orZero_byte_lt raw 5
  powerSupplyState := orZero_byte_lt raw 6
  thermalState := orZero_byte_lt raw 7
  securityStatus := orZero_byte_lt raw 8
  heightU := within_noneIf (byte_lt raw 13)
  powerCords := within_noneIf (byte_lt raw 14)
  skuNumber := text_string raw.skuOffset h

theorem toProcessor_wellFormed (h : Encodable raw) : raw.toProcessor.WellFormed where
  handle := h.handle_lt
  socketDesignation := text_string 0 h
  type := orZero_byte_lt raw 1
  family := decodeFamily_lt (orZero_byte_lt raw 2) (word_lt raw 36)
  manufacturer := text_string 3 h
  processorId := by
    show (if _ then _ else _) = [] ∨ (if _ then _ else _ : Bytes).length = 8
    split
    · rename_i hlength
      exact Or.inr (length_slice_of_le hlength)
    · exact Or.inl rfl
  version := text_string 12 h
  voltageRaw := orZero_byte_lt raw 13
  externalClockMhz := within_noneIf (word_lt raw 14)
  maxSpeedMhz := within_noneIf (word_lt raw 16)
  currentSpeedMhz := within_noneIf (word_lt raw 18)
  status := orZero_byte_lt raw 20
  upgrade := orZero_byte_lt raw 21
  l1CacheHandle := within_noneIf (word_lt raw 22)
  l2CacheHandle := within_noneIf (word_lt raw 24)
  l3CacheHandle := within_noneIf (word_lt raw 26)
  serialNumber := text_string 28 h
  assetTag := text_string 29 h
  partNumber := text_string 30 h
  coreCount := resolve_lt (byte_lt raw 31) (word_lt raw 38)
  coresEnabled := resolve_lt (byte_lt raw 32) (word_lt raw 40)
  threadCount := resolve_lt (byte_lt raw 33) (word_lt raw 42)
  threadsEnabled := within_noneIf (word_lt raw 44)
  characteristics := orZero_word_lt raw 34

theorem toCache_wellFormed (h : Encodable raw) : raw.toCache.WellFormed where
  handle := h.handle_lt
  socketDesignation := text_string 0 h
  configuration := orZero_word_lt raw 1
  maxSize := cacheSize_decode _ _
  installedSize := cacheSize_decode _ _
  supportedSramTypes := orZero_word_lt raw 7
  currentSramType := orZero_word_lt raw 9
  speedNanoseconds := within_noneIf (byte_lt raw 11)
  errorCorrection := orZero_byte_lt raw 12
  systemCacheType := orZero_byte_lt raw 13
  associativity := orZero_byte_lt raw 14

theorem toSystemSlot_wellFormed (h : Encodable raw) : raw.toSystemSlot.WellFormed where
  handle := h.handle_lt
  designation := text_string 0 h
  type := orZero_byte_lt raw 1
  busWidth := orZero_byte_lt raw 2
  currentUsage := orZero_byte_lt raw 3
  length := orZero_byte_lt raw 4
  slotId := orZero_word_lt raw 5
  characteristics1 := orZero_byte_lt raw 7
  characteristics2 := orZero_byte_lt raw 8
  segmentGroup := word_lt raw 9
  busNumber := byte_lt raw 11
  deviceFunction := byte_lt raw 12

theorem toMemoryArray_wellFormed (h : Encodable raw) : raw.toMemoryArray.WellFormed where
  handle := h.handle_lt
  location := orZero_byte_lt raw 0
  use := orZero_byte_lt raw 1
  errorCorrection := orZero_byte_lt raw 2
  maxCapacity := decodeCapacity_lt (dword_lt raw 3) (qword_lt raw 11)
  errorInfoHandle := orZero_word_lt raw 7
  deviceCount := orZero_word_lt raw 9

theorem toMemoryDevice_wellFormed (h : Encodable raw) : raw.toMemoryDevice.WellFormed where
  handle := h.handle_lt
  arrayHandle := orZero_word_lt raw 0
  errorInfoHandle := orZero_word_lt raw 2
  totalWidthBits := within_noneIf (word_lt raw 4)
  dataWidthBits := within_noneIf (word_lt raw 6)
  size := memorySize_decode (word_lt raw 8) (dword_lt raw 24)
  formFactor := orZero_byte_lt raw 10
  deviceSet := orZero_byte_lt raw 11
  locator := text_string 12 h
  bankLocator := text_string 13 h
  type := orZero_byte_lt raw 14
  typeDetail := orZero_word_lt raw 15
  speedMts := within_noneIf (word_lt raw 17)
  manufacturer := text_string 19 h
  serialNumber := text_string 20 h
  assetTag := text_string 21 h
  partNumber := text_string 22 h
  rank := within_decodeRank _
  configuredSpeedMts := within_noneIf (word_lt raw 28)
  minVoltageMv := within_noneIf (word_lt raw 30)
  maxVoltageMv := within_noneIf (word_lt raw 32)
  configuredVoltageMv := within_noneIf (word_lt raw 34)
  memoryTechnology := orZero_byte_lt raw 36
  operatingModeCapability := orZero_word_lt raw 37
  moduleFirmwareVersion := text_string 39 h
  moduleManufacturerId := orZero_word_lt raw 40
  moduleProductId := orZero_word_lt raw 42
  subsystemControllerManufacturerId := orZero_word_lt raw 44
  subsystemControllerProductId := orZero_word_lt raw 46
  nonVolatileSize := within_noneIf (qword_lt raw 48)
  volatileSize := within_noneIf (qword_lt raw 56)
  cacheSize := within_noneIf (qword_lt raw 64)
  logicalSize := within_noneIf (qword_lt raw 72)
  extendedSpeedMts := within_decodeExtendedSpeed _
  extendedConfiguredSpeedMts := within_decodeExtendedSpeed _

theorem toIpmiDevice_wellFormed (h : Encodable raw) : raw.toIpmiDevice.WellFormed where
  handle := h.handle_lt
  interfaceType := orZero_byte_lt raw 0
  specVersionMajor := Nat.and_lt_two_pow _ (show 0x0F < 2 ^ 4 by decide)
  specVersionMinor := Nat.and_lt_two_pow _ (show 0x0F < 2 ^ 4 by decide)
  i2cSlaveAddress := orZero_byte_lt raw 2
  nvStorageAddress := orZero_byte_lt raw 3
  baseAddress := orZero_qword_lt raw 4
  baseAddressModifier := orZero_byte_lt raw 12
  interruptNumber := orZero_byte_lt raw 13

theorem toTpmDevice_wellFormed (h : Encodable raw) : raw.toTpmDevice.WellFormed where
  handle := h.handle_lt
  vendorId := by
    refine vendor_of_bytes ?_
    rw [RawStructure.vendorBytes]
    split
    · rename_i hlength
      exact (length_slice_of_le hlength).le
    · exact Nat.zero_le 4
  specMajor := orZero_byte_lt raw 4
  specMinor := orZero_byte_lt raw 5
  firmwareVersion1 := orZero_dword_lt raw 6
  firmwareVersion2 := orZero_dword_lt raw 10
  description := text_string 14 h
  characteristics := orZero_qword_lt raw 15

end

/-! ## The aggregate -/

/-- An aggregate of well-formed records. -/
structure DMIInfo.WellFormed (d : DMIInfo) : Prop where
  bios : ∀ b ∈ d.bios, b.WellFormed
  system : ∀ s ∈ d.system, s.WellFormed
  baseboards : ∀ b ∈ d.baseboards, b.WellFormed
  chassis : ∀ c ∈ d.chassis, c.WellFormed
  processors : ∀ p ∈ d.processors, p.WellFormed
  caches : ∀ c ∈ d.caches, c.WellFormed
  systemSlots : ∀ s ∈ d.systemSlots, s.WellFormed
  oemStrings : ∀ s ∈ d.oemStrings, Text s
  memoryArrays : ∀ a ∈ d.memoryArrays, a.WellFormed
  memoryDevices : ∀ m ∈ d.memoryDevices, m.WellFormed
  ipmiDevices : ∀ i ∈ d.ipmiDevices, i.WellFormed
  tpmDevices : ∀ t ∈ d.tpmDevices, t.WellFormed

section

variable {raws : List RawStructure} {α : Type} {P : α → Prop} {view : RawStructure → α}

theorem forall_ofType (typeId : Nat) (h : ∀ r ∈ raws, Encodable r)
    (hview : ∀ {raw}, Encodable raw → P (view raw)) :
    ∀ a ∈ (raws.filter fun r => r.type == typeId).map view, P a := by
  intro a ha
  obtain ⟨r, hr, rfl⟩ := List.mem_map.mp ha
  exact hview (h r (List.mem_filter.mp hr).1)

theorem forall_firstOfType (typeId : Nat) (h : ∀ r ∈ raws, Encodable r)
    (hview : ∀ {raw}, Encodable raw → P (view raw)) :
    ∀ a ∈ (raws.find? fun r => r.type == typeId).map view, P a := by
  intro a ha
  obtain ⟨r, hr, rfl⟩ := Option.map_eq_some_iff.mp ha
  exact hview (h r (List.mem_of_find?_eq_some hr))

theorem dmiInfo_wellFormed (h : ∀ r ∈ raws, Encodable r) (smbiosVersion : Nat × Nat) :
    (dmiInfo smbiosVersion raws).WellFormed where
  bios := forall_firstOfType 0 h toBios_wellFormed
  system := forall_firstOfType 1 h toSystem_wellFormed
  baseboards := forall_ofType 2 h toBaseboard_wellFormed
  chassis := forall_ofType 3 h toChassis_wellFormed
  processors := forall_ofType 4 h toProcessor_wellFormed
  caches := forall_ofType 7 h toCache_wellFormed
  systemSlots := forall_ofType 9 h toSystemSlot_wellFormed
  oemStrings := by
    intro s hs
    obtain ⟨r, hr, hmem⟩ := List.mem_flatMap.mp hs
    have henc := h r (List.mem_filter.mp hr).1
    exact ⟨henc.nul_notMem s hmem, henc.latin1 s hmem, henc.stripped s hmem⟩
  memoryArrays := forall_ofType 16 h toMemoryArray_wellFormed
  memoryDevices := forall_ofType 17 h toMemoryDevice_wellFormed
  ipmiDevices := forall_ofType 38 h toIpmiDevice_wellFormed
  tpmDevices := forall_ofType 43 h toTpmDevice_wellFormed

end

/-- Whatever is read is well-formed. -/
theorem wellFormed_of_readTables {ep tables : Bytes} {info : DMIInfo}
    (h : readTables ep tables = .ok info) : info.WellFormed := by
  cases hep : parseEntryPoint ep with
  | error e => simp [readTables, parseTables, hep] at h
  | ok entryPoint =>
      cases hwalk : walkStructures tables entryPoint.tableLength with
      | error e => simp [readTables, parseTables, hep, hwalk] at h
      | ok raws =>
          rw [readTables_of_parse hep hwalk, Except.ok.injEq] at h
          rw [← h]
          exact dmiInfo_wellFormed (encodable_of_walk hwalk).1 _

/-- Some tables are read as an aggregate with the property. -/
def Readable (R : DMIInfo → Prop) : Prop :=
  ∃ ep tables info, readTables ep tables = .ok info ∧ R info

/-- A table of one valid record. -/
theorem Record.Valid.readable {r : Record} (h : r.Valid) {R : DMIInfo → Prop}
    (hR : R (collect (3, 2) [r] 0)) : Readable R := by
  have hvalid : ∀ r' ∈ [r], r'.Valid := List.forall_mem_singleton.mpr h
  have hwalk := walkStructures_tableOf hvalid (show 0 < 0x10000 by decide) [] (Or.inl rfl)
  have hep : parseEntryPoint [95, 83, 77, 51, 95, 0, 24, 3, 2, 0, 1, 0, 0, 0, 0, 0, 0, 0, 0, 0,
      0, 0, 0, 0] = .ok ⟨3, 2, 1, 0⟩ := by decide
  exact ⟨_, _, _, readTables_of_parse hep hwalk, (dmiInfo_tableOf hvalid (3, 2) 0).symm ▸ hR⟩

/-- What holds of the records that are read, and makes a record valid, is the range. -/
theorem readable_iff {R : DMIInfo → Prop} {P : Prop} (r : Record) (hvalid : P → r.Valid)
    (hread : R (collect (3, 2) [r] 0)) (hrange : ∀ info, info.WellFormed → R info → P) :
    Readable R ↔ P := by
  refine ⟨?_, fun h => (hvalid h).readable hread⟩
  rintro ⟨ep, tables, info, h, hinfo⟩
  exact hrange info (wellFormed_of_readTables h) hinfo

/-- The exact range of every parser: the records that are read from some tables are
the well-formed ones.  Of the records that a short structure can leave with a `None`,
this is said of those that it does not. -/
theorem records_range :
    (∀ s, Readable (fun info => info.system = some s) ↔ s.WellFormed) ∧
    (∀ b, Readable (fun info => b ∈ info.baseboards) ↔ b.WellFormed) ∧
    (∀ c, Readable (fun info => c ∈ info.chassis) ↔ c.WellFormed) ∧
    (∀ c, Readable (fun info => c ∈ info.caches) ↔ c.WellFormed) ∧
    (∀ a, Readable (fun info => a ∈ info.memoryArrays) ↔ a.WellFormed) ∧
    (∀ d, Readable (fun info => d ∈ info.memoryDevices) ↔ d.WellFormed) ∧
    (∀ d, Readable (fun info => d ∈ info.ipmiDevices) ↔ d.WellFormed) ∧
    (∀ d, Readable (fun info => d ∈ info.tpmDevices) ↔ d.WellFormed) ∧
    (∀ b : BIOSInfo, b.Complete →
      (Readable (fun info => info.bios = some b) ↔ b.WellFormed)) ∧
    (∀ p : ProcessorInfo, p.Complete →
      (Readable (fun info => p ∈ info.processors) ↔ p.WellFormed)) ∧
    (∀ s : SystemSlot, s.Complete →
      (Readable (fun info => s ∈ info.systemSlots) ↔ s.WellFormed)) ∧
    ∀ s : Str, s ≠ [] → (Readable (fun info => s ∈ info.oemStrings) ↔ Text s) := by
  refine ⟨fun s => ?_, fun b => ?_, fun c => ?_, fun c => ?_, fun a => ?_, fun d => ?_,
    fun d => ?_, fun d => ?_, fun b hc => ?_, fun p hc => ?_, fun s hc => ?_, fun s hne => ?_⟩
  · exact readable_iff (.system s) id rfl fun _ hinfo => hinfo.system s
  · exact readable_iff (.baseboard b) id (.head _) fun _ hinfo => hinfo.baseboards b
  · exact readable_iff (.chassis c) id (.head _) fun _ hinfo => hinfo.chassis c
  · exact readable_iff (.cache c) id (.head _) fun _ hinfo => hinfo.caches c
  · exact readable_iff (.memoryArray a) id (.head _) fun _ hinfo => hinfo.memoryArrays a
  · exact readable_iff (.memoryDevice d) id (.head _) fun _ hinfo => hinfo.memoryDevices d
  · exact readable_iff (.ipmiDevice d) id (.head _) fun _ hinfo => hinfo.ipmiDevices d
  · exact readable_iff (.tpmDevice d) id (.head _) fun _ hinfo => hinfo.tpmDevices d
  · exact readable_iff (.bios b) (⟨·, hc⟩) rfl fun _ hinfo => hinfo.bios b
  · exact readable_iff (.processor p) (⟨·, hc⟩) (.head _) fun _ hinfo => hinfo.processors p
  · exact readable_iff (.systemSlot s) (⟨·, hc⟩) (.head _) fun _ hinfo => hinfo.systemSlots s
  · refine readable_iff (.oemStrings 0 [s]) (fun h => ⟨by decide, ?_⟩) (.head _)
      fun _ hinfo => hinfo.oemStrings s
    exact List.forall_mem_singleton.mpr ⟨h, hne⟩

end TruenasPydmi
