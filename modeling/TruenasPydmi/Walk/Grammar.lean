/-
  Walk/Grammar.lean --- the SMBIOS structure-stream grammar, and that the walker
  accepts exactly it.

  The grammar is stated without frames, loops or states: offsets, the length
  byte, the LEAST doubled NUL behind the formatted area, and all pieces of the
  string area split at its NULs.
-/
import TruenasPydmi.Walk.Stream

set_option autoImplicit false

namespace TruenasPydmi

open TruenasPydmi.Foundation TruenasPydmi.Python

/-- The structure `r` occupies the positions of `buf` from `o` up to `o'`. -/
def StructureAt (buf : Bytes) (o : Nat) (r : RawStructure) (o' : Nat) : Prop :=
  ∃ (type L lo hi : UInt8) (p : Nat),
    (buf[o]? = some type ∧ buf[o + 1]? = some L ∧ buf[o + 2]? = some lo ∧
      buf[o + 3]? = some hi) ∧
    4 ≤ L.toNat ∧ o + L.toNat ≤ buf.length ∧
    IsLeast {q | o + L.toNat ≤ q ∧ q + 1 < buf.length ∧ buf[q]? = some 0 ∧
      buf[q + 1]? = some 0} p ∧
    o' = p + 2 ∧
    r = { type := type.toNat
          handle := lo.toNat + 256 * hi.toNat
          formatted := slice buf (o + 4) (o + L.toNat)
          strings := if p = o + L.toNat then []
            else ((slice buf (o + L.toNat) p).splitOn 0).map text }

/-- `o 0, o 1, ..., o k` are the boundaries of the structures `rs` of a stream. -/
structure StreamBoundaries (buf : Bytes) (rs : List RawStructure) (o : Nat → Nat) : Prop where
  zero : o 0 = 0
  increasing : ∀ i < rs.length, o i < o (i + 1)
  le_length : o rs.length ≤ buf.length
  structureAt : ∀ (i : Nat) (hi : i < rs.length), StructureAt buf (o i) rs[i] (o (i + 1))
  /-- only the last structure may be an End-of-Table -/
  type_ne : ∀ (i : Nat) (hi : i < rs.length), i + 1 < rs.length → rs[i].type ≠ 127
  /-- the stream ends in an End-of-Table or fills the data -/
  ends : (∃ r, rs.getLast? = some r ∧ r.type = 127) ∨ o rs.length = buf.length

/-- The structures `rs` are what `buf` says under the grammar. -/
def IsStructureStream (buf : Bytes) (rs : List RawStructure) : Prop :=
  ∃ o : Nat → Nat, StreamBoundaries buf rs o

/-! ## Frames and the grammar -/

theorem structureAt_iff (buf : Bytes) (o : Nat) (r : RawStructure) (o' : Nat) :
    StructureAt buf o r o' ↔ ∃ fr, FrameAt buf buf.length o fr o' ∧ r = fr.decode buf := by
  constructor
  · rintro ⟨type, L, lo, hi, p, ⟨htype, hL, hlo, hhi⟩, hfour, hfits, hp, rfl, rfl⟩
    refine ⟨⟨o, L.toNat, p⟩, ⟨rfl, ⟨by simp [hL], hfour, hfits, hp⟩, rfl⟩, ?_⟩
    simp [Frame.decode, Frame.type, Frame.formattedEnd, stringSet, segments,
      fromLE_slice_one htype, fromLE_slice_two hlo hhi]
    rfl
  · rintro ⟨fr, hfr, rfl⟩
    obtain ⟨type, L, lo, hi, hbytes, hL, htype, hhandle⟩ := hfr.header
    have hfe := hfr.formattedEnd_eq
    have hfits := hfr.fits
    have hfour := hfits.four_le
    have hle := hfits.le_stop
    have hcloses := hfits.closes
    rw [hfe, ← hL] at hcloses hle
    refine ⟨type, L, lo, hi, fr.term, hbytes, by omega, hle, hcloses, hfr.next_eq.symm, ?_⟩
    rw [← htype, ← hhandle, hL, ← hfe, ← hfr.start_eq]
    rfl

/-- The boundaries of a stream are those of the frames accepted. -/
theorem exists_boundaries_iff (buf : Bytes) (rs : List RawStructure) (e : Nat) :
    (∃ o, StreamBoundaries buf rs o ∧ o rs.length = e) ↔
      ∃ frs, Accepts buf buf.length 0 frs e ∧ rs = frs.map (Frame.decode buf) := by
  constructor
  · rintro ⟨o, h, rfl⟩
    have htile : Tiling (StructureAt buf) 0 rs (o rs.length) :=
      Tiling.iff_boundaries.mpr ⟨o, h.zero, rfl, h.structureAt⟩
    obtain ⟨frs, hframes, rfl⟩ := (Tiling.map_iff (structureAt_iff buf)).mp htile
    refine ⟨frs, accepts_iff_tiling.mpr ⟨hframes, ?_, ?_⟩, rfl⟩
    · intro fr hfr
      obtain ⟨i, hi, rfl⟩ := List.mem_iff_getElem.mp hfr
      rw [List.length_dropLast] at hi
      have := h.type_ne i (by simp; omega) (by simp; omega)
      simpa [Frame.decode] using this
    · rcases h.ends with ⟨r, hr, ht⟩ | hend
      · left
        rw [List.getLast?_map, Option.map_eq_some_iff] at hr
        obtain ⟨fr, hfr, rfl⟩ := hr
        exact ⟨fr, hfr, ht⟩
      · exact Or.inr hend.ge
  · rintro ⟨frs, ha, rfl⟩
    have hle := ha.le_length (Nat.zero_le _)
    obtain ⟨htile, htype, hend⟩ := accepts_iff_tiling.mp ha
    have htile' : Tiling (StructureAt buf) 0 (frs.map (Frame.decode buf)) e :=
      (Tiling.map_iff (structureAt_iff buf)).mpr ⟨frs, htile, rfl⟩
    obtain ⟨o, hzero, hlast, hat⟩ := Tiling.iff_boundaries.mp htile'
    have hinc : ∀ i < (frs.map (Frame.decode buf)).length, o i < o (i + 1) := by
      intro i hi
      obtain ⟨fr, hfr, -⟩ := (structureAt_iff _ _ _ _).mp (hat i hi)
      exact hfr.lt
    refine ⟨o, ⟨hzero, hinc, hlast ▸ hle, hat, ?_, ?_⟩, hlast⟩
    · intro i hi hi'
      simp only [List.length_map] at hi hi'
      have hmem : frs[i] ∈ frs.dropLast := by
        rw [List.mem_iff_getElem]
        exact ⟨i, by rw [List.length_dropLast]; omega, List.getElem_dropLast _⟩
      simpa [Frame.decode] using htype _ hmem
    · rcases hend with ⟨fr, hfr, ht⟩ | hend
      · exact Or.inl ⟨fr.decode buf, by simp [hfr], ht⟩
      · exact Or.inr (by rw [hlast]; omega)

theorem isStructureStream_iff (buf : Bytes) (rs : List RawStructure) :
    IsStructureStream buf rs ↔
      ∃ frs e, Accepts buf buf.length 0 frs e ∧ rs = frs.map (Frame.decode buf) := by
  rw [exists_comm]
  simp only [← exists_boundaries_iff]
  exact ⟨fun ⟨o, h⟩ => ⟨_, o, h, rfl⟩, fun ⟨_, o, h, _⟩ => ⟨o, h⟩⟩

/-! ## The walker and the grammar -/

/-- A declared length that does not cut the data has no effect. -/
theorem tableEnd_eq_length {buf : Bytes} {n : Nat} (h : n = 0 ∨ buf.length ≤ n) :
    tableEnd buf n = buf.length := by
  unfold tableEnd
  split
  · rcases h with rfl | h
    · omega
    · exact Nat.min_eq_left h
  · rfl

/-- The walker accepts exactly the structure-stream grammar, and raises
`DMIProtocolError` on everything else. -/
theorem walkStructures_iff_grammar (buf : Bytes) (maxLength : Nat)
    (hlength : maxLength = 0 ∨ buf.length ≤ maxLength) :
    (∀ rs, walkStructures buf maxLength = .ok rs ↔ IsStructureStream buf rs) ∧
      ((∀ rs, ¬ IsStructureStream buf rs) →
        ∃ message o, walkStructures buf maxLength = protocolError message o) := by
  have hiff : ∀ rs, walkStructures buf maxLength = .ok rs ↔ IsStructureStream buf rs := by
    intro rs
    rw [walkStructures_ok_iff, isStructureStream_iff, tableEnd_eq_length hlength]
  refine ⟨hiff, fun hnone => ?_⟩
  rcases walkStructures_outcome buf maxLength with ⟨rs, hrs⟩ | herror
  · exact absurd ((hiff rs).mp hrs) (hnone rs)
  · exact herror

/-- A table whose first string is blank, followed by an End-of-Table: the blank
string keeps its index. -/
theorem walkStructures_iff_grammar_blank :
    IsStructureStream [1, 5, 2, 0, 9, 32, 0, 65, 0, 0, 127, 4, 0, 0, 0, 0]
      [⟨1, 2, [9], [[], ['A']]⟩, ⟨127, 0, [], []⟩] :=
  ((walkStructures_iff_grammar _ 0 (Or.inl rfl)).1 _).mp (by decide)

end TruenasPydmi
