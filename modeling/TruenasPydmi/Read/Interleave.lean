/-
  Read/Interleave.lean --- the order of structures of different types does not
  matter.

  The aggregate reads the structures of a table only through the subsequences of
  the types it knows (`dmiInfo_congr`).  Together with the position independence
  of the walker this gives the statement about tables: reordering their blocks
  type by type, or leaving out the blocks of other types, changes nothing but
  `raw_structures`.
-/
import Mathlib.Data.List.Flatten
import Mathlib.Data.List.Forall2
import TruenasPydmi.Read.Outcome
import TruenasPydmi.Walk.Block

set_option autoImplicit false

namespace TruenasPydmi

open TruenasPydmi.Foundation TruenasPydmi.Python

/-- The bytes of one structure that is not an End-of-Table. -/
structure Block where
  bytes : Bytes
  raw : RawStructure
  walks : walkStructures bytes 0 = .ok [raw]
  type_ne : raw.type ≠ 127

/-- The table of a sequence of blocks. -/
def Block.table (blocks : List Block) : Bytes := (blocks.map Block.bytes).flatten

/-- The blocks of one type, in their order. -/
def Block.ofType (typeId : Nat) (blocks : List Block) : List Block :=
  blocks.filter fun b => b.raw.type == typeId

/-- The same blocks in an order that is the same among the blocks of each type. -/
structure Reordered (blocks blocks' : List Block) : Prop where
  perm : blocks'.Perm blocks
  order : ∀ typeId, Block.ofType typeId blocks' = Block.ofType typeId blocks

/-- The types `read_dmi` looks for. -/
def knownTypes : List Nat := [0, 1, 2, 3, 4, 7, 9, 11, 16, 17, 38, 43]

/-- Two aggregates are equal in every field except `raw_structures`, and answer
every query alike. -/
structure SameButRaw (d d' : DMIInfo) : Prop where
  fields : { d with rawStructures := d'.rawStructures } = d'
  eccMemory : d.eccMemory = d'.eccMemory
  hasIpmi : d.hasIpmi = d'.hasIpmi
  hasTpm : d.hasTpm = d'.hasTpm
  cacheByHandle : ∀ handle, d.cacheByHandle handle = d'.cacheByHandle handle

/-- The aggregate depends on the structures of the known types, type by type. -/
theorem dmiInfo_congr {version : Nat × Nat} {raws raws' : List RawStructure}
    (h : ∀ typeId ∈ knownTypes,
      raws.filter (fun r => r.type == typeId) = raws'.filter fun r => r.type == typeId) :
    SameButRaw (dmiInfo version raws) (dmiInfo version raws') := by
  have hfind : ∀ typeId ∈ knownTypes,
      raws.find? (fun r => r.type == typeId) = raws'.find? fun r => r.type == typeId := by
    intro typeId htype
    rw [← List.head?_filter, ← List.head?_filter, h typeId htype]
  have hfields : { dmiInfo version raws with rawStructures := raws' } = dmiInfo version raws' := by
    simp only [knownTypes, List.mem_cons, List.not_mem_nil, or_false, forall_eq_or_imp,
      forall_eq] at h hfind
    simp only [dmiInfo, h, hfind]
  refine ⟨hfields, ?_, ?_, ?_, fun handle => ?_⟩
  all_goals rw [← hfields]; rfl

theorem Block.forall₂_isBlock (blocks : List Block) :
    List.Forall₂ IsBlock (blocks.map Block.bytes) (blocks.map Block.raw) := by
  rw [List.forall₂_map_left_iff, List.forall₂_map_right_iff, List.forall₂_same]
  exact fun b _ => isBlock_of_walk b.walks b.type_ne

/-- The structures of a table of blocks, and its aggregate. -/
theorem readTables_of_blocks {epBytes : Bytes} {ep : EntryPoint} {blocks : List Block}
    (hep : parseEntryPoint epBytes = .ok ep)
    (hlength : ep.tableLength = 0 ∨ (Block.table blocks).length ≤ ep.tableLength) :
    readTables epBytes (Block.table blocks) =
      .ok (dmiInfo (ep.major, ep.minor) (blocks.map Block.raw)) := by
  refine readTables_of_parse hep ?_
  refine walkStructures_of_blocks (Block.forall₂_isBlock blocks) (fun r hr => ?_) hlength
  obtain ⟨b, -, rfl⟩ := List.mem_map.mp hr
  exact b.type_ne

theorem filter_map_raw (blocks : List Block) (typeId : Nat) :
    (blocks.map Block.raw).filter (fun r => r.type == typeId) =
      (Block.ofType typeId blocks).map Block.raw := by
  rw [List.filter_map]
  rfl

theorem Reordered.length_table {blocks blocks' : List Block} (h : Reordered blocks blocks') :
    (Block.table blocks').length = (Block.table blocks).length :=
  (h.perm.map Block.bytes).flatten.length_eq

/-- The table without the blocks of unknown types is no longer. -/
theorem length_table_filter_le (p : Block → Bool) (blocks : List Block) :
    (Block.table (blocks.filter p)).length ≤ (Block.table blocks).length := by
  have hsub : ((blocks.filter p).map Block.bytes).flatten.Sublist
      (blocks.map Block.bytes).flatten :=
    (List.filter_sublist.map Block.bytes).flatten
  exact hsub.length_le

/-- How structures of different types are interleaved, and what structures of
unknown types stand between them, shows in `raw_structures` only. -/
theorem readTables_interleaving (epBytes : Bytes) (ep : EntryPoint) (blocks : List Block)
    (hep : parseEntryPoint epBytes = .ok ep)
    (hlength : ep.tableLength = 0 ∨ (Block.table blocks).length ≤ ep.tableLength) :
    ∃ d, readTables epBytes (Block.table blocks) = .ok d ∧
      (∀ blocks', Reordered blocks blocks' →
        ∃ d', readTables epBytes (Block.table blocks') = .ok d' ∧ SameButRaw d d') ∧
      ∃ d', readTables epBytes
          (Block.table (blocks.filter fun b => knownTypes.contains b.raw.type)) = .ok d' ∧
        SameButRaw d d' := by
  refine ⟨_, readTables_of_blocks hep hlength, fun blocks' hre => ?_, ?_⟩
  · refine ⟨_, readTables_of_blocks hep (by rwa [hre.length_table]), dmiInfo_congr ?_⟩
    intro typeId _
    rw [filter_map_raw, filter_map_raw, hre.order]
  · refine ⟨_, readTables_of_blocks hep ?_, dmiInfo_congr ?_⟩
    · exact hlength.imp_right (length_table_filter_le _ blocks).trans
    · intro typeId hknown
      rw [filter_map_raw, filter_map_raw, Block.ofType, Block.ofType, List.filter_filter]
      congr 1
      refine List.filter_congr fun b _ => ?_
      by_cases ht : b.raw.type = typeId
      · simp [ht, hknown]
      · simp [ht]

/-- A baseboard and OEM strings behind an SMBIOS 3 entry point, in either order. -/
theorem readTables_interleaving_boards :
    let epBytes : Bytes :=
      [95, 83, 77, 51, 95, 0, 24, 3, 2, 0, 1, 0, 0, 0, 0, 0, 0, 0, 0, 0, 0, 0, 0, 0]
    let board : Block := ⟨[2, 4, 0, 0, 0, 0], ⟨2, 0, [], []⟩, by decide, by decide⟩
    let oem : Block := ⟨[11, 4, 1, 0, 65, 0, 0], ⟨11, 1, [], [['A']]⟩, by decide, by decide⟩
    ∃ d d', readTables epBytes (Block.table [board, oem]) = .ok d ∧
      readTables epBytes (Block.table [oem, board]) = .ok d' ∧ SameButRaw d d' := by
  intro epBytes board oem
  obtain ⟨d, hd, hreordered, -⟩ := readTables_interleaving epBytes
    { major := 3, minor := 2, revision := 1, tableLength := 0 } [board, oem] (by decide)
    (Or.inl rfl)
  have hswap : Reordered [board, oem] [oem, board] := by
    refine ⟨.swap _ _ _, fun typeId => ?_⟩
    by_cases ht : 2 = typeId
    · subst ht
      rfl
    · have hboard : (board.raw.type == typeId) = false := by simpa [board] using ht
      simp [Block.ofType, List.filter_cons, hboard]
  obtain ⟨d', hd', hsame⟩ := hreordered _ hswap
  exact ⟨d, d', hd, hd', hsame⟩

end TruenasPydmi
