/-
  Image/Redact.lean --- sanitizing a table of records.

  A maintainer thinks of a fixture as records: the sanitized fixture should hold the
  same records without serial numbers, asset tags and UUIDs.  `Record.redact` says this
  of one record.  The square commutes (`sanitize_tableOf`): writing the records and
  sanitizing the bytes gives the bytes of the redacted records.

  Of a structure that is written from texts and cells, the strings that sensitive fields
  designate are the texts whose cells stand at the sensitive offsets; that is all that
  has to be looked up for each record.
-/
import TruenasPydmi.Image.Table
import TruenasPydmi.Sanitize.Refine

set_option autoImplicit false

namespace TruenasPydmi

open TruenasPydmi.Foundation TruenasPydmi.Python

/-! ## Redacted records -/

def SystemInfo.redact (s : SystemInfo) : SystemInfo :=
  { s with serialNumber := mask s.serialNumber, uuid := none }

def BaseboardInfo.redact (b : BaseboardInfo) : BaseboardInfo :=
  { b with serialNumber := mask b.serialNumber, assetTag := mask b.assetTag }

def ChassisInfo.redact (c : ChassisInfo) : ChassisInfo :=
  { c with serialNumber := mask c.serialNumber, assetTag := mask c.assetTag }

def ProcessorInfo.redact (p : ProcessorInfo) : ProcessorInfo :=
  { p with serialNumber := mask p.serialNumber, assetTag := mask p.assetTag }

def MemoryDevice.redact (d : MemoryDevice) : MemoryDevice :=
  { d with serialNumber := mask d.serialNumber, assetTag := mask d.assetTag }

/-- The record without serial number, asset tag and UUID. -/
def Record.redact : Record → Record
  | system s => .system s.redact
  | baseboard b => .baseboard b.redact
  | chassis c => .chassis c.redact
  | processor p => .processor p.redact
  | memoryDevice d => .memoryDevice d.redact
  | r => r

theorem Text.mask (s : Str) : Text (mask s) where
  nul_notMem := fun h => absurd (List.eq_of_mem_replicate h) (by decide)
  latin1 := fun c hc => by rw [List.eq_of_mem_replicate hc]; decide
  stripped := strip_of_forall fun c hc => by rw [List.eq_of_mem_replicate hc]; decide

/-- A redacted record is as valid as it was. -/
theorem Record.Valid.redact {r : Record} (h : r.Valid) : r.redact.Valid := by
  cases r with
  | system s =>
      have h : s.WellFormed := h
      exact { h with serialNumber := .mask _, uuid := nofun }
  | baseboard b =>
      have h : b.WellFormed := h
      exact { h with serialNumber := .mask _, assetTag := .mask _ }
  | chassis c =>
      have h : c.WellFormed := h
      exact { h with serialNumber := .mask _, assetTag := .mask _ }
  | processor p =>
      have hcomplete := h.2
      have h : p.WellFormed := h.1
      exact ⟨{ h with serialNumber := .mask _, assetTag := .mask _ }, hcomplete⟩
  | memoryDevice d =>
      have h : d.WellFormed := h
      exact { h with serialNumber := .mask _, assetTag := .mask _ }
  | _ => exact h

/-! ## Redacting a structure that is written from texts -/

/-- Where a structure of a type holds its sensitive fields. -/
def sensitiveOffsets (type : Nat) : List Nat :=
  (sensitiveStringFields.filter fun field => field.1.1 == type).map fun field => field.1.2

theorem RawStructure.designates_iff (r : RawStructure) (stringIdx : Nat) :
    r.Designates stringIdx ↔ some stringIdx ∈ (sensitiveOffsets r.type).map r.byte := by
  simp only [Designates, sensitiveOffsets, List.mem_map, List.mem_filter, beq_iff_eq]
  constructor
  · rintro ⟨field, hfield, htype, hbyte⟩
    exact ⟨_, ⟨field, ⟨hfield, htype⟩, rfl⟩, hbyte⟩
  · rintro ⟨_, ⟨field, ⟨hfield, htype⟩, rfl⟩, hbyte⟩
    exact ⟨field, hfield, htype, hbyte⟩

section

variable {type handle : Nat} {texts : List Str} {cells : (Nat → Cell) → List Cell}

/-- The texts with placeholders for some. -/
def maskAt (sensitive : List Nat) (texts : List Str) : List Str :=
  texts.mapIdx fun i s => if i ∈ sensitive then mask s else s

theorem present_mask (s : Str) : present (mask s) = present s := by
  cases s <;> rfl

theorem present_maskAt (sensitive : List Nat) (i : Nat) (s : Str) :
    present (if i ∈ sensitive then mask s else s) = present s := by
  split
  · exact present_mask s
  · rfl

/-- Placeholders have the numbers of the texts they stand for. -/
theorem textCell_maskAt (sensitive : List Nat) (texts : List Str) :
    textCell (maskAt sensitive texts) = textCell texts := by
  funext i
  rw [textCell, textCell, maskAt, rank_mapIdx (present_maskAt sensitive)]

/-- The strings of a written structure are redacted where the sensitive offsets hold the
cells of texts. -/
theorem strings_redact_build (sensitive : List Nat)
    (hcells : (sensitiveOffsets type).map (cellAt (cells (textCell texts))) =
      sensitive.map fun i => some (textCell texts i))
    (hlength : texts.length < 0x100) :
    (build type handle texts cells).redact.strings = (maskAt sensitive texts).filter present := by
  have hbytes : (sensitiveOffsets type).map (build type handle texts cells).byte =
      sensitive.map fun i => some (rank present texts i) := by
    rw [← List.forall₂_eq_eq_eq, List.forall₂_map_left_iff, List.forall₂_map_right_iff] at hcells ⊢
    refine hcells.imp fun o i hcell => ?_
    have := rank_le_length present texts i
    exact byte_build hcell (by omega)
  refine filter_mapIdx (present_maskAt sensitive) fun i s hi hs => ?_
  have hpos := (getElem?_filter_rank present hi hs).1
  have hiff : (build type handle texts cells).Designates (rank present texts i - 1 + 1) ↔
      i ∈ sensitive := by
    rw [RawStructure.designates_iff, Nat.sub_add_cancel hpos,
      show (build type handle texts cells).type = type from rfl, hbytes, List.mem_map]
    constructor
    · rintro ⟨j, hj, heq⟩
      rwa [rank_inj present hpos (Option.some.inj heq).symm]
    · exact fun hmem => ⟨i, hmem, rfl⟩
  exact if_congr hiff rfl rfl

/-- The formatted area holds no text, only numbers of texts. -/
theorem redact_build (sensitive : List Nat) (htype : type ≠ 1)
    (hcells : (sensitiveOffsets type).map (cellAt (cells (textCell texts))) =
      sensitive.map fun i => some (textCell texts i))
    (hlength : texts.length < 0x100) :
    (build type handle texts cells).redact =
      build type handle (maskAt sensitive texts) cells := by
  have hformatted : (build type handle texts cells).redact.formatted =
      (build type handle (maskAt sensitive texts) cells).formatted := by
    rw [RawStructure.redact, if_neg fun h => htype h.1, build, build, textCell_maskAt]
  exact RawStructure.eq_of_fields rfl rfl hformatted (strings_redact_build sensitive hcells hlength)

/-- A structure of another type is left alone. -/
theorem redact_eq_self {r : RawStructure} (htype : r.type ≠ 1)
    (hnone : sensitiveOffsets r.type = []) : r.redact = r := by
  have hstrings : r.redact.strings = r.strings := by
    refine List.ext_getElem? fun k => ?_
    have hnot : ¬ r.Designates (k + 1) := by
      rw [RawStructure.designates_iff, hnone]
      exact List.not_mem_nil
    simp [RawStructure.redact, hnot]
  have hformatted : r.redact.formatted = r.formatted := if_neg fun h => htype h.1
  exact RawStructure.eq_of_fields rfl rfl hformatted hstrings

end

/-! ## Redacting the structures of records -/

/-- The UUID is a cell of its own, behind four texts. -/
theorem SystemInfo.redact_toRaw (s : SystemInfo) : s.toRaw.redact = s.redact.toRaw := by
  have hstrings : s.toRaw.redact.strings = s.redact.toRaw.strings := by
    rw [toRaw, strings_redact_build [3] rfl (by simp)]
    rfl
  have hlength : s.toRaw.formatted.length = 23 := by
    rw [toRaw, build, length_image]
    simp [Cell.size, textCell]
  have hwrite : ∀ text : Nat → Cell, (∀ i, (text i).size = 1) →
      overwrite (image [text 0, text 1, text 2, text 3, .fixed 16 (storeUuid s.uuid),
        .num 1 s.wakeUpType, text 4, text 5]) ⟨4, 16, 0⟩ =
      image [text 0, text 1, text 2, text 3, .fixed 16 (List.replicate 16 0),
        .num 1 s.wakeUpType, text 4, text 5] := by
    intro text hsize
    have := overwrite_image [text 0, text 1, text 2, text 3]
      [.num 1 s.wakeUpType, text 4, text 5] 16 (storeUuid s.uuid) 0
    simpa [hsize] using this
  have hformatted : s.toRaw.redact.formatted = s.redact.toRaw.formatted := by
    have hlong : s.toRaw.type = 1 ∧ 20 ≤ s.toRaw.formatted.length := ⟨rfl, by omega⟩
    rw [RawStructure.redact, if_pos hlong, toRaw, build, hwrite (textCell _) fun _ => rfl,
      ← textCell_maskAt [3]]
    rfl
  exact RawStructure.eq_of_fields rfl rfl hformatted hstrings

theorem BaseboardInfo.redact_toRaw (b : BaseboardInfo) : b.toRaw.redact = b.redact.toRaw := by
  rw [toRaw, redact_build [3, 4] (by decide) rfl (by simp)]
  rfl

theorem ChassisInfo.redact_toRaw (c : ChassisInfo) : c.toRaw.redact = c.redact.toRaw := by
  rw [toRaw, redact_build [2, 3] (by decide) rfl (by simp)]
  rfl

theorem ProcessorInfo.redact_toRaw (p : ProcessorInfo) : p.toRaw.redact = p.redact.toRaw := by
  rw [toRaw, redact_build [3, 4] (by decide) rfl (by simp)]
  rfl

theorem MemoryDevice.redact_toRaw (d : MemoryDevice) : d.toRaw.redact = d.redact.toRaw := by
  rw [toRaw, redact_build [3, 4] (by decide) rfl (by simp)]
  rfl

theorem Record.redact_toRaw (r : Record) : r.toRaw.redact = r.redact.toRaw := by
  cases r with
  | system s => exact s.redact_toRaw
  | baseboard b => exact b.redact_toRaw
  | chassis c => exact c.redact_toRaw
  | processor p => exact p.redact_toRaw
  | memoryDevice d => exact d.redact_toRaw
  | _ => exact redact_eq_self (Nat.ne_of_beq_eq_false rfl) rfl

/-! ## Sanitizing a table of records -/

theorem map_redact_tableOf (records : List Record) (handle : Nat) :
    (tableOf records handle).map RawStructure.redact =
      tableOf (records.map Record.redact) handle := by
  have hend : (endOfTable handle).redact = endOfTable handle :=
    redact_eq_self (show 127 ≠ 1 by decide) rfl
  rw [tableOf, tableOf, List.map_append, List.map_map, List.map_map, List.map_singleton, hend]
  exact congrArg (· ++ [endOfTable handle]) (List.map_congr_left fun r _ => r.redact_toRaw)

theorem storable_tableOf {records : List Record} (h : ∀ r ∈ records, r.Valid) {handle : Nat}
    (hhandle : handle < 0x10000) (junk : Bytes) : Storable (tableOf records handle) junk := by
  have hencodable : ∀ r ∈ tableOf records handle, Encodable r ∧ ∀ s ∈ r.strings, s ≠ [] := by
    rw [tableOf]
    refine List.forall_mem_append.mpr ⟨?_, ?_⟩
    · exact List.forall_mem_map.mpr fun record hrecord => Record.encodable (h record hrecord)
    · exact List.forall_mem_singleton.mpr ⟨encodable_endOfTable hhandle, by simp [endOfTable]⟩
  refine ⟨fun r hr => (hencodable r hr).1, fun r hr => delimited_of_ne_nil (hencodable r hr).2,
    ?_, Or.inl ⟨endOfTable handle, List.getLast?_concat, rfl⟩⟩
  rw [tableOf, List.dropLast_concat]
  exact List.forall_mem_map.mpr fun record _ => record.type_toRaw_ne

/-- Sanitizing the bytes of a table of records gives the bytes of the redacted records,
and these are what is read from them. -/
theorem sanitize_tableOf (records : List Record) (h : ∀ r ∈ records, r.Valid) (handle : Nat)
    (hhandle : handle < 0x10000) (junk : Bytes) :
    (∀ r ∈ records.map Record.redact, r.Valid) ∧
    ∃ s, sanitize (encode (tableOf records handle) ++ junk) = .ok s ∧
      s.out = encode (tableOf (records.map Record.redact) handle) ++ junk ∧
      ∀ (ep : Bytes) (major minor : UInt8) (n : Nat), Declares ep major minor n →
        n = 0 ∨ (encode (tableOf records handle)).length ≤ n →
        readTables ep s.out =
          .ok (collect (major.toNat, minor.toNat) (records.map Record.redact) handle) := by
  have hvalid : ∀ r ∈ records.map Record.redact, r.Valid :=
    List.forall_mem_map.mpr fun r hr => (h r hr).redact
  obtain ⟨s, frs, hs, hout, ha, hredacted⟩ :=
    exists_sanitize_encode (storable_tableOf h hhandle junk)
  rw [map_redact_tableOf] at hout hredacted
  refine ⟨hvalid, s, hs, hout, fun ep major minor n hdeclares hn => ?_⟩
  obtain ⟨revision, hep⟩ := parseEntryPoint_of_declares hdeclares
  have hwalk := ha.walkStructures_eq hn
  rw [hredacted] at hwalk
  rw [readTables_of_parse hep hwalk, dmiInfo_tableOf hvalid]

/-- A baseboard with a serial number and an asset tag. -/
theorem sanitize_tableOf_baseboard : ∃ s,
    sanitize (encode (tableOf
      [.baseboard ⟨7, [], [], [], ['S', 'N'], ['A', 'T'], 0, [], 0, 0⟩] 0x7F)) = .ok s ∧
    s.out = encode (tableOf
      [.baseboard ⟨7, [], [], [], ['A', 'A'], ['A', 'A'], 0, [], 0, 0⟩] 0x7F) := by
  have hserial : Text ['S', 'N'] := ⟨by decide, by simp, rfl⟩
  have hasset : Text ['A', 'T'] := ⟨by decide, by simp, rfl⟩
  obtain ⟨-, s, hs, hout, -⟩ := sanitize_tableOf
    [.baseboard ⟨7, [], [], [], ['S', 'N'], ['A', 'T'], 0, [], 0, 0⟩]
    (List.forall_mem_singleton.mpr
      ⟨by decide, .nil, .nil, .nil, hserial, hasset, by decide, .nil, by decide, by decide⟩)
    0x7F (by decide) []
  rw [List.append_nil] at hs hout
  exact ⟨s, hs, hout⟩

end TruenasPydmi
