/-
  Walk/Encoding.lean --- the SMBIOS encoding, and that the walker inverts it.

  `encode` writes a list of structures.  The walker reads back every list whose
  structures are `Encodable` and whose string sets are `Delimited`, whatever
  stands behind it.  In the other direction, what the walker returns is always
  encodable, and encoding it gives back the bytes that were read exactly when no
  string was stored with blanks around it (`Unpadded`): the walker strips its
  strings, so such blanks, and nothing else, are lost.
-/
import Mathlib.Data.List.Forall2
import TruenasPydmi.Reader
import TruenasPydmi.Walk.Block

set_option autoImplicit false

namespace TruenasPydmi

open TruenasPydmi.Foundation TruenasPydmi.Python

/-! ## The encoding -/

/-- Type, length and handle. -/
def encodeHeader (r : RawStructure) : Bytes :=
  [UInt8.ofNat r.type, UInt8.ofNat (4 + r.formatted.length), UInt8.ofNat (r.handle % 256),
    UInt8.ofNat (r.handle / 256)]

/-- Every string with a NUL behind it, and one more NUL; two NULs when there are
no strings. -/
def encodeStrings (strings : List Str) : Bytes :=
  if strings = [] then [0, 0] else terminated 0 (strings.map encodeLatin1)

/-- The bytes of a structure. -/
def encodeStructure (r : RawStructure) : Bytes :=
  encodeHeader r ++ r.formatted ++ encodeStrings r.strings

/-- The bytes of a list of structures. -/
def encode (rs : List RawStructure) : Bytes := (rs.map encodeStructure).flatten

/-- What the fields of a structure can hold. -/
structure Encodable (r : RawStructure) : Prop where
  type_lt : r.type < 256
  handle_lt : r.handle < 0x10000
  formatted_le : r.formatted.length ≤ 251
  nul_notMem : ∀ s ∈ r.strings, Char.ofNat 0 ∉ s
  latin1 : ∀ s ∈ r.strings, ∀ c ∈ s, c.toNat < 256
  stripped : ∀ s ∈ r.strings, strip s = s

theorem delimited_of_ne_nil {strings : List Str} (h : ∀ s ∈ strings, s ≠ []) :
    Delimited strings := by
  refine ⟨?_, fun hmem => h [] (List.mem_of_mem_tail hmem) rfl⟩
  rintro rfl
  exact h [] (by simp) rfl

theorem encodeLatin1_eq_nil {s : Str} : encodeLatin1 s = [] ↔ s = [] := List.map_eq_nil_iff

namespace Encodable

variable {r : RawStructure}

theorem text_encodeLatin1 (h : Encodable r) {s : Str} (hs : s ∈ r.strings) :
    text (encodeLatin1 s) = s := by
  rw [text, decodeLatin1_encodeLatin1 (h.latin1 s hs), h.stripped s hs]

theorem nul_notMem_encodeLatin1 (h : Encodable r) {s : Str} (hs : s ∈ r.strings) :
    0 ∉ encodeLatin1 s := by
  rw [← nul_mem_decodeLatin1, decodeLatin1_encodeLatin1 (h.latin1 s hs)]
  exact h.nul_notMem s hs

/-- The string set written is the string set read. -/
theorem stringSet_eq (h : Encodable r) (hdel : Delimited r.strings) {buf : Bytes} {i : Nat}
    (hagree : Agree buf i (encodeStrings r.strings) 0 (encodeStrings r.strings).length) :
    ∃ p, Closes 0 buf i p ∧ p + 2 = i + (encodeStrings r.strings).length ∧
      stringSet buf i p = r.strings := by
  by_cases hnone : r.strings = []
  · have henc : encodeStrings r.strings = [0, 0] := if_pos hnone
    rw [henc] at hagree ⊢
    have h0 : buf[i]? = some 0 := hagree 0 (by decide)
    have h1 : buf[i + 1]? = some 0 := hagree 1 (by decide)
    refine ⟨i, ⟨⟨le_rfl, doubled_of_getElem? h0 h1⟩, fun q hq => hq.1⟩, rfl, ?_⟩
    rw [stringSet, if_pos rfl, hnone]
  · have henc : encodeStrings r.strings = terminated 0 (r.strings.map encodeLatin1) :=
      if_neg hnone
    rw [henc] at hagree ⊢
    have hnul : ∀ item ∈ r.strings.map encodeLatin1, 0 ∉ item := by
      intro item hitem
      obtain ⟨s, hs, rfl⟩ := List.mem_map.mp hitem
      exact h.nul_notMem_encodeLatin1 hs
    have hdel' : Delimited (r.strings.map encodeLatin1) :=
      hdel.map fun _ => encodeLatin1_eq_nil.mp
    obtain ⟨p, hp, hpe, hsegments⟩ :=
      closes_of_terminated (by simpa using hnone) hnul hdel' hagree
    refine ⟨p, hp, hpe, ?_⟩
    have hpi : p ≠ i := by
      rintro rfl
      refine hdel'.1 ?_
      rw [← hsegments, segments, slice_self]
      rfl
    rw [stringSet, if_neg hpi, hsegments, List.map_map]
    exact (List.map_congr_left fun s hs => h.text_encodeLatin1 hs).trans (List.map_id _)

/-- The encoding of a structure is a block of it. -/
theorem isBlock (h : Encodable r) (hdel : Delimited r.strings) :
    IsBlock (encodeStructure r) r := by
  have hlen := h.formatted_le
  have hhandle := h.handle_lt
  have hlength : (encodeStructure r).length =
      4 + r.formatted.length + (encodeStrings r.strings).length := by
    simp only [encodeStructure, encodeHeader, List.length_append, List.length_cons,
      List.length_nil, Nat.zero_add, Nat.reduceAdd]
  have hagree : Agree (encodeStructure r) (4 + r.formatted.length) (encodeStrings r.strings) 0
      (encodeStrings r.strings).length := by
    have := agree_append (encodeHeader r ++ r.formatted) (encodeStrings r.strings) []
    rwa [List.append_nil, List.length_append] at this
  obtain ⟨p, hp, hpe, hstrings⟩ := h.stringSet_eq hdel hagree
  have hL : (UInt8.ofNat (4 + r.formatted.length)).toNat = 4 + r.formatted.length :=
    UInt8.toNat_ofNat_of_lt' (show _ < 256 by omega)
  have hlo : (UInt8.ofNat (r.handle % 256)).toNat = r.handle % 256 :=
    UInt8.toNat_ofNat_of_lt' (show _ < 256 by omega)
  have hhi : (UInt8.ofNat (r.handle / 256)).toNat = r.handle / 256 :=
    UInt8.toNat_ofNat_of_lt' (show _ < 256 by omega)
  have hat : StructureAt (encodeStructure r) 0 r (encodeStructure r).length := by
    refine ⟨_, _, _, _, p, ⟨rfl, rfl, rfl, rfl⟩, ?_, ?_, ?_, ?_, ?_⟩
    · omega
    · omega
    · rw [hL, Nat.zero_add]
      exact hp
    · omega
    · obtain ⟨type, handle, formatted, strings⟩ := r
      have hformatted : slice (encodeStructure ⟨type, handle, formatted, strings⟩) 4
          (4 + formatted.length) = formatted :=
        slice_append_mid (encodeHeader ⟨type, handle, formatted, strings⟩) formatted
          (encodeStrings strings)
      have htype : (UInt8.ofNat type).toNat = type := UInt8.toNat_ofNat_of_lt' h.type_lt
      simp only [stringSet, segments] at hstrings hL hlo hhi hhandle ⊢
      simp only [hL, hlo, hhi, htype, Nat.zero_add, hformatted, RawStructure.mk.injEq, true_and]
      refine ⟨by omega, ?_⟩
      exact hstrings.symm
  obtain ⟨fr, hfr, hdecode⟩ := (structureAt_iff _ _ _ _).mp hat
  exact ⟨fr, hfr, hdecode.symm⟩

end Encodable

/-! ## Decoding what was encoded -/

/-- The encoding of a list of structures is accepted as that list, whatever
stands behind it, by a walker that comes to an End-of-Table or to the declared end
there. -/
theorem accepts_encode {rs : List RawStructure} (h : ∀ r ∈ rs, Encodable r)
    (hdel : ∀ r ∈ rs, Delimited r.strings) (ht : ∀ r ∈ rs.dropLast, r.type ≠ 127)
    (junk : Bytes) {stop : Nat} (hstop : (encode rs).length ≤ stop)
    (hend : (∃ r, rs.getLast? = some r ∧ r.type = 127) ∨ stop ≤ (encode rs).length) :
    ∃ frs, Accepts (encode rs ++ junk) stop 0 frs (encode rs).length ∧
      frs.map (Frame.decode (encode rs ++ junk)) = rs := by
  have hblocks : List.Forall₂ IsBlock (rs.map encodeStructure) rs := by
    rw [List.forall₂_map_left_iff, List.forall₂_same]
    exact fun r hr => (h r hr).isBlock (hdel r hr)
  have hagree : Agree (encode rs ++ junk) 0 (encode rs) 0 (encode rs).length := by
    simpa using agree_append [] (encode rs) junk
  obtain ⟨frs, htile, hdecode⟩ := tiling_of_blocks hblocks hagree
    (show 0 + (encode rs).length ≤ stop by rwa [Nat.zero_add])
  rw [Nat.zero_add] at htile
  refine ⟨frs, accepts_iff_tiling.mpr ⟨htile, fun fr hfr => ?_, hend.imp_left ?_⟩, hdecode⟩
  · have hmem := List.mem_map_of_mem (f := Frame.decode (encode rs ++ junk)) hfr
    rw [List.map_dropLast, hdecode] at hmem
    exact ht _ hmem
  · rintro ⟨r, hr, htype⟩
    rw [← hdecode, List.getLast?_map, Option.map_eq_some_iff] at hr
    obtain ⟨fr, hfr, rfl⟩ := hr
    exact ⟨fr, hfr, htype⟩

/-- The walker inverts the encoding. -/
theorem walkStructures_encode {rs : List RawStructure} (h : ∀ r ∈ rs, Encodable r)
    (hdel : ∀ r ∈ rs, Delimited r.strings) (ht : ∀ r ∈ rs.dropLast, r.type ≠ 127)
    (junk : Bytes) {n : Nat}
    (hn : ((∃ r, rs.getLast? = some r ∧ r.type = 127) ∧ (n = 0 ∨ (encode rs).length ≤ n)) ∨
      tableEnd (encode rs ++ junk) n = (encode rs).length) :
    walkStructures (encode rs ++ junk) n = .ok rs := by
  have hstop : (encode rs).length ≤ tableEnd (encode rs ++ junk) n ∧
      ((∃ r, rs.getLast? = some r ∧ r.type = 127) ∨
        tableEnd (encode rs ++ junk) n ≤ (encode rs).length) := by
    rcases hn with ⟨hlast, hn⟩ | hn
    · refine ⟨?_, Or.inl hlast⟩
      rw [tableEnd, List.length_append]
      split <;> omega
    · exact ⟨hn.ge, Or.inr hn.le⟩
  obtain ⟨frs, ha, hdecode⟩ := accepts_encode h hdel ht junk hstop.1 hstop.2
  exact walkStructures_ok_iff.mpr ⟨frs, _, ha, hdecode.symm⟩

/-! ## Encoding what was decoded -/

/-- No string of the structure is stored with blanks around it. -/
def Unpadded (buf : Bytes) (fr : Frame) : Prop :=
  ∀ stored ∈ segments 0 buf fr.formattedEnd fr.term,
    strip (decodeLatin1 stored) = decodeLatin1 stored

theorem length_encodeLatin1_text_le (stored : Bytes) :
    (encodeLatin1 (text stored)).length ≤ stored.length :=
  (List.length_map _).le.trans (length_text_le stored)

theorem strip_eq_of_length_text {stored : Bytes}
    (h : (encodeLatin1 (text stored)).length = stored.length) :
    strip (decodeLatin1 stored) = decodeLatin1 stored := by
  refine (strip_sublist (decodeLatin1 stored)).eq_of_length ?_
  simpa [encodeLatin1, text, decodeLatin1] using h

/-- Writing a string set back gives at most the bytes it was read from; it gives
them all exactly when no string was padded. -/
theorem encodeStrings_stringSet {buf : Bytes} {i p : Nat} (h : Closes 0 buf i p) :
    (encodeStrings (stringSet buf i p)).length ≤ p + 2 - i ∧
    ((encodeStrings (stringSet buf i p)).length = p + 2 - i →
      ∀ stored ∈ segments 0 buf i p, strip (decodeLatin1 stored) = decodeLatin1 stored) ∧
    ((∀ stored ∈ segments 0 buf i p, strip (decodeLatin1 stored) = decodeLatin1 stored) →
      encodeStrings (stringSet buf i p) = slice buf i (p + 2)) := by
  have hle := h.le
  by_cases hpi : p = i
  · subst hpi
    have hsegments : segments 0 buf p p = [[]] := by rw [segments, slice_self]; rfl
    have henc : encodeStrings (stringSet buf p p) = [0, 0] := by rw [stringSet, if_pos rfl]; rfl
    rw [henc, hsegments]
    refine ⟨by simp, fun _ => by simp [decodeLatin1, strip], fun _ => ?_⟩
    rw [slice_eq_cons (show p < p + 2 by omega) h.doubled.2.1,
      slice_eq_cons (show p + 1 < p + 2 by omega) h.doubled.2.2, slice_self]
  · have henc : encodeStrings (stringSet buf i p) =
        terminated 0 ((segments 0 buf i p).map fun stored => encodeLatin1 (text stored)) := by
      rw [stringSet, if_neg hpi, encodeStrings, if_neg (by simp [segments_ne_nil]), List.map_map]
      rfl
    have hslice : (terminated 0 (segments 0 buf i p)).length = p + 2 - i := by
      rw [terminated_segments h, length_slice_of_le h.lt_length]
    have hle : ∀ stored ∈ segments 0 buf i p, (encodeLatin1 (text stored)).length ≤ stored.length :=
      fun stored _ => length_encodeLatin1_text_le stored
    obtain ⟨hlength, heq⟩ := length_terminated_map_le 0 hle
    rw [henc, ← hslice]
    refine ⟨hlength, fun h' stored hstored => strip_eq_of_length_text (heq h' stored hstored),
      fun hstrip => ?_⟩
    rw [← terminated_segments h]
    congr 1
    refine (List.map_congr_left fun stored hstored => ?_).trans (List.map_id _)
    rw [text, hstrip stored hstored, encodeLatin1_decodeLatin1, id]

section

variable {buf : Bytes} {stop o o' : Nat} {fr : Frame}

theorem FrameAt.encodeHeader_eq (h : FrameAt buf stop o fr o') :
    encodeHeader (fr.decode buf) = slice buf o (o + 4) := by
  obtain ⟨type, L, lo, hi, ⟨h0, h1, h2, h3⟩, hL, htype, hhandle⟩ := h.header
  have hslice : slice buf o (o + 4) = [type, L, lo, hi] := by
    rw [slice_eq_cons (by omega) h0, slice_eq_cons (by omega) h1, slice_eq_cons (by omega) h2,
      slice_eq_cons (by omega) h3, slice_self]
  have hlo_lt := lo.toNat_lt
  have hlength : 4 + (fr.decode buf).formatted.length = L.toNat := by
    have := h.fits.four_le
    rw [h.length_formatted]
    omega
  have hlo : (fr.decode buf).handle % 256 = lo.toNat := by omega
  have hhi : (fr.decode buf).handle / 256 = hi.toNat := by omega
  rw [encodeHeader, hslice, htype, hlength, hlo, hhi]
  simp

/-- Writing a structure back gives at most the bytes it was read from; it gives
them all exactly when no string was padded. -/
theorem FrameAt.encodeStructure (h : FrameAt buf stop o fr o') :
    (encodeStructure (fr.decode buf)).length ≤ o' - o ∧
    ((encodeStructure (fr.decode buf)).length = o' - o → Unpadded buf fr) ∧
    (Unpadded buf fr → encodeStructure (fr.decode buf) = slice buf o o') := by
  have hfe := h.formattedEnd_eq
  have hfour := h.fits.four_le
  have hle := h.fits.closes.le
  have hnext := h.next_eq
  rw [Frame.next] at hnext
  have hlength : (TruenasPydmi.encodeStructure (fr.decode buf)).length =
      4 + (fr.length - 4) + (encodeStrings (fr.decode buf).strings).length := by
    rw [TruenasPydmi.encodeStructure, List.length_append, List.length_append,
      h.length_formatted]
    rfl
  obtain ⟨hstrings, hpadded, hunpadded⟩ := encodeStrings_stringSet h.fits.closes
  have hset : (fr.decode buf).strings = stringSet buf fr.formattedEnd fr.term := rfl
  rw [hlength, hset]
  refine ⟨by omega, fun heq => hpadded (by omega), fun h' => ?_⟩
  rw [TruenasPydmi.encodeStructure, h.encodeHeader_eq, hset, hunpadded h', hnext,
    ← slice_append_slice buf (show o ≤ o + 4 by omega) (show o + 4 ≤ o' by omega),
    ← slice_append_slice buf (show o + 4 ≤ fr.formattedEnd by omega)
      (show fr.formattedEnd ≤ o' by omega), ← List.append_assoc]
  simp only [Frame.decode, h.start_eq]

/-- What the walker returns can be encoded. -/
theorem FrameAt.encodable (h : FrameAt buf stop o fr o') : Encodable (fr.decode buf) := by
  obtain ⟨type, L, lo, hi, -, hL, htype, hhandle⟩ := h.header
  have htype_lt := type.toNat_lt
  have hL_lt := L.toNat_lt
  have hlo_lt := lo.toNat_lt
  have hhi_lt := hi.toNat_lt
  have hformatted := h.length_formatted
  have hstrings : ∀ s ∈ (fr.decode buf).strings,
      ∃ stored ∈ segments 0 buf fr.formattedEnd fr.term, s = text stored := by
    intro s hs
    simp only [Frame.decode, stringSet] at hs
    split at hs
    · simp at hs
    · obtain ⟨stored, hstored, rfl⟩ := List.mem_map.mp hs
      exact ⟨stored, hstored, rfl⟩
  refine ⟨by omega, by omega, by omega, fun s hs => ?_, fun s hs c hc => ?_, fun s hs => ?_⟩
  · obtain ⟨stored, hstored, rfl⟩ := hstrings s hs
    intro hnul
    exact notMem_of_mem_segments hstored
      (nul_mem_decodeLatin1.mp ((strip_sublist _).subset hnul))
  · obtain ⟨stored, -, rfl⟩ := hstrings s hs
    exact toNat_lt_of_mem_decodeLatin1 ((strip_sublist _).subset hc)
  · obtain ⟨stored, -, rfl⟩ := hstrings s hs
    exact strip_strip _

end

/-- Writing a run of structures back gives at most the bytes it was read from; it
gives them all exactly when no string was padded. -/
theorem encode_of_tiling {buf : Bytes} {stop o e : Nat} {frs : List Frame}
    (h : Tiling (FrameAt buf stop) o frs e) :
    (encode (frs.map (Frame.decode buf))).length ≤ e - o ∧
    ((encode (frs.map (Frame.decode buf))).length = e - o → ∀ fr ∈ frs, Unpadded buf fr) ∧
    ((∀ fr ∈ frs, Unpadded buf fr) → encode (frs.map (Frame.decode buf)) = slice buf o e) := by
  induction h with
  | nil o => simp [encode]
  | @cons o m e fr frs hfr htile ih =>
      have hlt := hfr.lt
      have hle := htile.le FrameAt.lt
      obtain ⟨hlength, hpadded, hunpadded⟩ := hfr.encodeStructure
      obtain ⟨hlength', hpadded', hunpadded'⟩ := ih
      have hcons : encode ((fr :: frs).map (Frame.decode buf)) =
          encodeStructure (fr.decode buf) ++ encode (frs.map (Frame.decode buf)) := rfl
      rw [hcons, List.length_append]
      refine ⟨by omega, fun heq => ?_, fun h' => ?_⟩
      · rw [List.forall_mem_cons]
        exact ⟨hpadded (by omega), hpadded' (by omega)⟩
      · rw [List.forall_mem_cons] at h'
        rw [hunpadded h'.1, hunpadded' h'.2,
          slice_append_slice buf (Nat.le_of_lt hlt) hle]

/-- The encoding of what was accepted is what was read, exactly when no string
was padded. -/
theorem Accepts.encode_eq_iff {buf : Bytes} {stop e : Nat} {frs : List Frame}
    (h : Accepts buf stop 0 frs e) :
    encode (frs.map (Frame.decode buf)) = buf.take e ↔ ∀ fr ∈ frs, Unpadded buf fr := by
  have hle := h.le_length (Nat.zero_le _)
  obtain ⟨-, hpadded, hunpadded⟩ := encode_of_tiling h.tiling
  refine ⟨fun heq => hpadded ?_, fun h' => by rw [hunpadded h', slice_zero]⟩
  rw [heq, List.length_take]
  omega

/-- A string set that is not padded is delimited. -/
theorem FrameAt.delimited {buf : Bytes} {stop o o' : Nat} {fr : Frame}
    (h : FrameAt buf stop o fr o') (hunpadded : Unpadded buf fr) :
    Delimited (fr.decode buf).strings := by
  have hset : (fr.decode buf).strings = stringSet buf fr.formattedEnd fr.term := rfl
  rw [hset, stringSet]
  split
  · exact ⟨by simp, by simp⟩
  · rename_i hne
    have hmap : (segments 0 buf fr.formattedEnd fr.term).map text =
        (segments 0 buf fr.formattedEnd fr.term).map decodeLatin1 :=
      List.map_congr_left fun stored hstored => hunpadded stored hstored
    rw [hmap]
    exact (h.fits.closes.delimited hne).map fun _ hnil => List.map_eq_nil_iff.mp hnil

/-- What the walker returns can be encoded. -/
theorem encodable_of_walk {buf : Bytes} {n : Nat} {rs : List RawStructure}
    (h : walkStructures buf n = .ok rs) :
    (∀ r ∈ rs, Encodable r) ∧ ∀ r ∈ rs.dropLast, r.type ≠ 127 := by
  obtain ⟨frs, e, ha, rfl⟩ := walkStructures_ok_iff.mp h
  obtain ⟨htile, htype, -⟩ := accepts_iff_tiling.mp ha
  refine ⟨fun r hr => ?_, fun r hr => ?_⟩
  · obtain ⟨fr, hfr, rfl⟩ := List.mem_map.mp hr
    obtain ⟨o, o', hat, -⟩ := htile.exists_at FrameAt.lt hfr
    exact hat.encodable
  · rw [← List.map_dropLast] at hr
    obtain ⟨fr, hfr, rfl⟩ := List.mem_map.mp hr
    exact htype fr hfr

/-- What the walker returned is read back from its encoding exactly when the
string sets are delimited. -/
theorem walkStructures_encode_iff {buf : Bytes} {n : Nat} {rs : List RawStructure}
    (h : walkStructures buf n = .ok rs) :
    walkStructures (encode rs) 0 = .ok rs ↔ ∀ r ∈ rs, Delimited r.strings := by
  constructor
  · intro hback r hr
    obtain ⟨frs, e, ha, hrs⟩ := walkStructures_ok_iff.mp hback
    have hle := ha.le_length (Nat.zero_le _)
    obtain ⟨hlength, hpadded, -⟩ := encode_of_tiling ha.tiling
    rw [← hrs] at hlength hpadded
    rw [hrs] at hr
    obtain ⟨fr, hfr, rfl⟩ := List.mem_map.mp hr
    obtain ⟨o, o', hat, -⟩ := ha.tiling.exists_at FrameAt.lt hfr
    exact hat.delimited (hpadded (by omega) fr hfr)
  · intro hdel
    obtain ⟨hencodable, htype⟩ := encodable_of_walk h
    have := walkStructures_encode hencodable hdel htype [] (n := 0)
      (Or.inr (by rw [List.append_nil, tableEnd_eq_length (Or.inl rfl)]))
    rwa [List.append_nil] at this

/-! ## Entry points -/

/-- The entry point has one of the two forms and declares a version and a table
length. -/
inductive Declares (buf : Bytes) (major minor : UInt8) (n : Nat) : Prop where
  /-- the 31 bytes of the `_SM_` form -/
  | sm : buf.length = 31 → slice buf 0 4 = bytesLit "_SM_" → slice buf 16 21 = bytesLit "_DMI_" →
      buf[6]? = some major → buf[7]? = some minor → fromLE (slice buf 22 24) = n →
      Declares buf major minor n
  /-- the 24 bytes of the `_SM3_` form -/
  | sm3 : buf.length = 24 → slice buf 0 5 = bytesLit "_SM3_" →
      buf[7]? = some major → buf[8]? = some minor → fromLE (slice buf 12 16) = n →
      Declares buf major minor n

/-- An entry point parses to what it declares, in both forms. -/
theorem parseEntryPoint_of_declares {buf : Bytes} {major minor : UInt8} {n : Nat}
    (h : Declares buf major minor n) :
    ∃ revision, parseEntryPoint buf =
      .ok { major := major.toNat, minor := minor.toNat, revision := revision,
            tableLength := n } := by
  cases h with
  | sm hlength hanchor hdmi hmajor hminor hn =>
      have hrevision : buf[10]? = some buf[10] := List.getElem?_eq_getElem (by omega)
      have hnot : slice buf 0 5 ≠ bytesLit "_SM3_" := by
        intro h5
        have htake : slice buf 0 4 = (slice buf 0 5).take 4 := by
          rw [slice_zero, slice_zero, List.take_take]
          rfl
        rw [h5, hanchor] at htake
        exact absurd htake (by decide)
      refine ⟨buf[10].toNat, ?_⟩
      rw [parseEntryPoint, if_neg (by omega), if_neg hnot, if_pos hanchor, if_neg (by omega),
        getItem_of_getElem? hmajor, getItem_of_getElem? hminor, getItem_of_getElem? hrevision,
        unpackFrom_of_le (by omega)]
      simp [hdmi, hn]
  | sm3 hlength hanchor hmajor hminor hn =>
      have hrevision : buf[10]? = some buf[10] := List.getElem?_eq_getElem (by omega)
      refine ⟨buf[10].toNat, ?_⟩
      rw [parseEntryPoint, if_neg (by omega), if_pos hanchor, if_neg (by omega),
        getItem_of_getElem? hmajor, getItem_of_getElem? hminor, getItem_of_getElem? hrevision,
        unpackFrom_of_le (by omega)]
      simp [hn]

/-! ## The round trips -/

/-- Decoding undoes encoding, in both forms of the entry point and whatever
stands behind the table; and encoding undoes decoding up to the blanks that the
decoder strips. -/
theorem encode_roundTrip :
    (∀ (rs : List RawStructure) (junk ep : Bytes) (major minor : UInt8) (n : Nat),
      (∀ r ∈ rs, Encodable r ∧ ∀ s ∈ r.strings, s ≠ []) →
      (∀ r ∈ rs.dropLast, r.type ≠ 127) →
      Declares ep major minor n →
      (((∃ r, rs.getLast? = some r ∧ r.type = 127) ∧ (n = 0 ∨ (encode rs).length ≤ n)) ∨
        (n = (encode rs).length ∧ 0 < n)) →
      ∃ parsed, parseTables ep (encode rs ++ junk) = .ok parsed ∧
        parsed.entryPoint.major = major.toNat ∧ parsed.entryPoint.minor = minor.toNat ∧
        parsed.entryPoint.tableLength = n ∧ parsed.structures = rs) ∧
    ∀ (buf : Bytes) (n : Nat) (rs : List RawStructure), walkStructures buf n = .ok rs →
      ((∀ r ∈ rs, Encodable r) ∧ ∀ r ∈ rs.dropLast, r.type ≠ 127) ∧
      (walkStructures (encode rs) 0 = .ok rs ↔ ∀ r ∈ rs, Delimited r.strings) ∧
      ∃ frs e, Accepts buf (tableEnd buf n) 0 frs e ∧ rs = frs.map (Frame.decode buf) ∧
        (encode rs = buf.take e ↔ ∀ fr ∈ frs, Unpadded buf fr) := by
  refine ⟨fun rs junk ep major minor n h ht hdeclares hn => ?_, fun buf n rs h => ?_⟩
  · obtain ⟨revision, hep⟩ := parseEntryPoint_of_declares hdeclares
    have hwalk : walkStructures (encode rs ++ junk) n = .ok rs := by
      refine walkStructures_encode (fun r hr => (h r hr).1)
        (fun r hr => delimited_of_ne_nil (h r hr).2) ht junk (hn.imp_right ?_)
      rintro ⟨rfl, hpos⟩
      rw [tableEnd, if_pos hpos, List.length_append]
      omega
    exact ⟨_, by simp [parseTables, hep, hwalk]; rfl, rfl, rfl, rfl, rfl⟩
  · obtain ⟨frs, e, ha, rfl⟩ := walkStructures_ok_iff.mp h
    exact ⟨encodable_of_walk h, walkStructures_encode_iff h, frs, e, ha, rfl, ha.encode_eq_iff⟩

/-- A baseboard and an End-of-Table, behind a `_SM3_` entry point that declares more
bytes than they fill. -/
theorem encode_roundTrip_baseboard :
    ∃ parsed, parseTables
        [95, 83, 77, 51, 95, 0, 24, 3, 2, 0, 1, 0, 18, 0, 0, 0, 0, 0, 0, 0, 0, 0, 0, 0]
        (encode [⟨2, 7, [1], [['S', 'N']]⟩, ⟨127, 8, [], []⟩] ++ [4, 5, 6]) = .ok parsed ∧
      parsed.structures = [⟨2, 7, [1], [['S', 'N']]⟩, ⟨127, 8, [], []⟩] := by
  obtain ⟨parsed, hparsed, -, -, -, hstructures⟩ := encode_roundTrip.1
    [⟨2, 7, [1], [['S', 'N']]⟩, ⟨127, 8, [], []⟩] [4, 5, 6]
    [95, 83, 77, 51, 95, 0, 24, 3, 2, 0, 1, 0, 18, 0, 0, 0, 0, 0, 0, 0, 0, 0, 0, 0] 3 2 18
    (List.forall_mem_cons.mpr
      ⟨⟨⟨by decide, by decide, by decide, by decide, by simp, by decide⟩, by decide⟩,
        List.forall_mem_singleton.mpr
          ⟨⟨by decide, by decide, by decide, by simp, by simp, by simp⟩, by simp⟩⟩)
    (by decide) (.sm3 (by decide) (by decide) (by decide) (by decide) (by decide))
    (Or.inl ⟨⟨_, rfl, rfl⟩, Or.inr (by decide)⟩)
  exact ⟨parsed, hparsed, hstructures⟩

end TruenasPydmi
