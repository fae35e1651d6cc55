/-
  Sanitize/Refine.lean --- what the sanitizer is for, and that it does this.

  Of a structure the sanitizer is to blank the UUID and to write over the strings that
  a sensitive field designates, and nothing else: `RawStructure.redact` says so without
  a byte, an offset or a loop.  The sanitizer never sees a structure.  It walks a table
  and writes into it in place; but on a table that holds the encoding of some structures
  its output is the encoding of the redacted ones (`sanitize_encode`).
-/
import TruenasPydmi.Sanitize.Intact
import TruenasPydmi.Sanitize.Preserve
import TruenasPydmi.Walk.Encoding
import TruenasPydmi.Walk.Splice

set_option autoImplicit false

namespace TruenasPydmi

open TruenasPydmi.Foundation TruenasPydmi.Python

/-! ## Redaction -/

theorem RawStructure.eq_of_fields {r r' : RawStructure} (htype : r.type = r'.type)
    (hhandle : r.handle = r'.handle) (hformatted : r.formatted = r'.formatted)
    (hstrings : r.strings = r'.strings) : r = r' := by
  cases r
  cases r'
  rw [RawStructure.mk.injEq]
  exact ⟨htype, hhandle, hformatted, hstrings⟩

/-- The placeholder for a text. -/
def mask (s : Str) : Str := List.replicate s.length 'A'

@[simp] theorem length_mask (s : Str) : (mask s).length = s.length := List.length_replicate

instance (r : RawStructure) (stringIdx : Nat) : Decidable (r.Designates stringIdx) :=
  inferInstanceAs (Decidable (∃ field ∈ sensitiveStringFields,
    field.1.1 = r.type ∧ r.byte field.1.2 = some stringIdx))

/-- The structure without its UUID and with placeholders for the strings that sensitive
fields designate. -/
def RawStructure.redact (r : RawStructure) : RawStructure where
  type := r.type
  handle := r.handle
  formatted :=
    if r.type = 1 ∧ 20 ≤ r.formatted.length then overwrite r.formatted ⟨4, 16, 0⟩ else r.formatted
  strings := r.strings.mapIdx fun k s => if r.Designates (k + 1) then mask s else s

theorem RawStructure.length_redact_formatted (r : RawStructure) :
    r.redact.formatted.length = r.formatted.length := by
  rw [redact]
  split
  · exact length_overwrite _ _
  · rfl

/-- The room that a string set takes. -/
theorem length_encodeStrings (strings : List Str) : (encodeStrings strings).length =
    if strings = [] then 2 else ((strings.map List.length).map (· + 1)).sum + 1 := by
  rw [encodeStrings]
  split
  · rfl
  · simp [terminated, encodeLatin1, List.length_flatMap, Function.comp_def]

/-- Redacting a structure does not change how much room it takes. -/
theorem RawStructure.length_encodeStructure_redact (r : RawStructure) :
    (encodeStructure r.redact).length = (encodeStructure r).length := by
  have hstrings : r.redact.strings.map List.length = r.strings.map List.length := by
    refine List.ext_getElem? fun k => ?_
    rw [redact, List.getElem?_map, List.getElem?_mapIdx, List.getElem?_map, Option.map_map]
    congr 1
    funext s
    simp only [Function.comp_apply]
    split
    · exact length_mask s
    · rfl
  rw [encodeStructure, encodeStructure, List.length_append, List.length_append, List.length_append,
    List.length_append, length_redact_formatted, length_encodeStrings, length_encodeStrings,
    hstrings]
  simp only [redact, List.mapIdx_eq_nil_iff]
  rfl

theorem length_encode_redact (rs : List RawStructure) :
    (encode (rs.map RawStructure.redact)).length = (encode rs).length := by
  rw [encode, encode, List.length_flatten, List.length_flatten, List.map_map, List.map_map,
    List.map_map]
  exact congrArg List.sum (List.map_congr_left fun r _ => r.length_encodeStructure_redact)

/-! ## A rewritten structure -/

section

variable {d out : Bytes} {stop o o' : Nat} {fr : Frame}

/-- The formatted area of a rewritten structure is without its UUID. -/
theorem RewrittenAt.formatted_eq (h : RewrittenAt d fr out) (hfr : FrameAt d stop o fr o')
    (hstop : stop ≤ out.length) :
    (fr.decode out).formatted = (fr.decode d).redact.formatted := by
  refine List.ext_getElem? fun k => ?_
  rw [(h.sanitizedTo hfr hstop).formatted, RawStructure.redact]
  by_cases hlong : (fr.decode d).type = 1 ∧ 20 ≤ (fr.decode d).formatted.length
  · rw [if_pos hlong, getElem?_overwrite]
    show _ = if 4 ≤ k ∧ k < 20 then (fr.decode d).formatted[k]?.map fun _ => 0 else _
    by_cases hk : 4 ≤ k ∧ k < 20
    · rw [if_pos ⟨hlong.1, hlong.2, hk⟩, if_pos hk, List.getElem?_eq_getElem (by omega)]
      rfl
    · rw [if_neg fun huuid => hk huuid.2.2, if_neg hk]
  · rw [if_neg fun huuid => hlong ⟨huuid.1, huuid.2.1⟩, if_neg hlong]

/-- A string that is not padded has as many characters as bytes are stored for it. -/
theorem FrameAt.length_text (hfr : FrameAt d stop o fr o') (hunpadded : Unpadded d fr)
    {k start slen : Nat} (hspan : (fr.spans d)[k]? = some (start, slen)) :
    (text (slice d start (start + slen))).length = slen := by
  unfold Frame.spans stringSetSpans at hspan
  split at hspan
  · simp at hspan
  · obtain ⟨-, hle, hsegment⟩ := hfr.fits.closes.slice_of_spans hspan
    have hlt := hfr.fits.closes.lt_length
    rw [text, hunpadded _ (List.mem_of_getElem? hsegment), decodeLatin1, List.length_map,
      length_slice_of_le (by omega), Nat.add_sub_cancel_left]

/-- The strings of a rewritten structure. -/
theorem RewrittenAt.strings_eq (h : RewrittenAt d fr out) (hfr : FrameAt d stop o fr o')
    (hstop : stop ≤ out.length) (hunpadded : Unpadded d fr) :
    (fr.decode out).strings = (fr.decode d).redact.strings := by
  have hlength := ((h.alike hfr).decode_shape hfr hstop).2.2.2
  refine List.ext_getElem? fun k => ?_
  rw [RawStructure.redact, List.getElem?_mapIdx]
  cases hs : (fr.decode d).strings[k]? with
  | none =>
      rw [List.getElem?_eq_none_iff] at hs
      rw [List.getElem?_eq_none (by omega)]
      rfl
  | some s =>
      obtain ⟨s', hs'⟩ : ∃ s', (fr.decode out).strings[k]? = some s' := by
        have := (List.getElem?_eq_some_iff.mp hs).1
        exact ⟨_, List.getElem?_eq_getElem (by omega)⟩
      rw [hs', Option.map_some]
      by_cases hdesignates : (fr.decode d).Designates (k + 1)
      · obtain ⟨start, slen, hspan, rfl, rfl⟩ := h.string_spans hfr hs hs'
        rw [if_pos hdesignates, h.slice_of_designates hspan hdesignates, text_replicate, mask,
          hfr.length_text hunpadded hspan]
      · rw [if_neg hdesignates, h.string_eq hfr hs hs' hdesignates]

/-- A rewritten structure is the redacted one. -/
theorem RewrittenAt.decode_eq (h : RewrittenAt d fr out) (hfr : FrameAt d stop o fr o')
    (hstop : stop ≤ out.length) (hunpadded : Unpadded d fr) :
    fr.decode out = (fr.decode d).redact := by
  obtain ⟨htype, hhandle, -, -⟩ := (h.alike hfr).decode_shape hfr hstop
  exact RawStructure.eq_of_fields htype hhandle (h.formatted_eq hfr hstop)
    (h.strings_eq hfr hstop hunpadded)

end

/-! ## The refinement -/

/-- A list of structures that can be written and read back, and what may stand behind
it. -/
structure Storable (rs : List RawStructure) (junk : Bytes) : Prop where
  encodable : ∀ r ∈ rs, Encodable r
  delimited : ∀ r ∈ rs, Delimited r.strings
  type_ne : ∀ r ∈ rs.dropLast, r.type ≠ 127
  last : (∃ r, rs.getLast? = some r ∧ r.type = 127) ∨ junk = []

/-- The sanitizer leaves the boundaries of the structures it walks, and redacts each. -/
theorem exists_sanitize_encode {rs : List RawStructure} {junk : Bytes} (h : Storable rs junk) :
    ∃ s frs, sanitize (encode rs ++ junk) = .ok s ∧
      s.out = encode (rs.map RawStructure.redact) ++ junk ∧
      Accepts s.out s.out.length 0 frs (encode rs).length ∧
      frs.map (Frame.decode s.out) = rs.map RawStructure.redact := by
  have hlen : (encode rs ++ junk).length = (encode rs).length + junk.length := List.length_append
  obtain ⟨frs, ha, hdecode⟩ := accepts_encode h.encodable h.delimited h.type_ne junk
    (show (encode rs).length ≤ (encode rs ++ junk).length by omega)
    (h.last.imp_right fun hjunk => by rw [hjunk, List.append_nil])
  obtain ⟨s, hs, hlength, hall, hrest⟩ := sanitize_of_accepts ha
  have hunpadded : ∀ fr ∈ frs, Unpadded (encode rs ++ junk) fr := by
    refine (encode_of_tiling ha.tiling).2.1 ?_
    rw [hdecode, Nat.sub_zero]
  have halike : ∀ fr ∈ frs, Alike (encode rs ++ junk) fr s.out := by
    intro fr hfr
    obtain ⟨o, o', hat, -⟩ := ha.tiling.exists_at FrameAt.lt hfr
    exact (hall fr hfr).alike hat
  have hredacted : frs.map (Frame.decode s.out) = rs.map RawStructure.redact := by
    rw [← hdecode, List.map_map]
    refine List.map_congr_left fun fr hfr => ?_
    obtain ⟨o, o', hat, -⟩ := ha.tiling.exists_at FrameAt.lt hfr
    exact (hall fr hfr).decode_eq hat hlength.ge (hunpadded fr hfr)
  have ha' : Accepts s.out s.out.length 0 frs (encode rs).length := by
    rw [hlength]
    exact ha.of_alike halike
  -- the redacted structures take the same room, so their encoding fills the table again
  obtain ⟨-, hpadded, hunpadded'⟩ := encode_of_tiling ha'.tiling
  have hroom := hpadded (by rw [hredacted, length_encode_redact, Nat.sub_zero])
  have hfront : encode (rs.map RawStructure.redact) = s.out.take (encode rs).length := by
    rw [← hredacted, hunpadded' hroom, slice_zero]
  have hback : s.out.drop (encode rs).length = junk := by
    refine List.ext_getElem? fun j => ?_
    rw [List.getElem?_drop, hrest _ (Nat.le_add_right _ _),
      List.getElem?_append_right (Nat.le_add_right _ _), Nat.add_sub_cancel_left]
  refine ⟨s, frs, hs, ?_, ha', hredacted⟩
  calc s.out = s.out.take (encode rs).length ++ s.out.drop (encode rs).length :=
        (List.take_append_drop _ _).symm
    _ = encode (rs.map RawStructure.redact) ++ junk := by rw [← hfront, hback]

/-- What is accepted whole is read by every declared length that covers it. -/
theorem Accepts.walkStructures_eq {buf : Bytes} {frs : List Frame} {e n : Nat}
    (h : Accepts buf buf.length 0 frs e) (hn : n = 0 ∨ e ≤ n) :
    walkStructures buf n = .ok (frs.map (Frame.decode buf)) := by
  have he := h.le_length (Nat.zero_le _)
  refine walkStructures_ok_iff.mpr ⟨frs, e, h.limit ?_ (tableEnd_le buf n), rfl⟩
  rw [tableEnd]
  split <;> omega

/-- On the encoding of a list of structures the sanitizer gives the encoding of the
redacted structures, with whatever stands behind them untouched; a reader with any
declared length that covers the structures reads the redacted ones; and nothing is
written exactly when every structure is its own redaction. -/
theorem sanitize_encode (rs : List RawStructure) (junk : Bytes) (h : Storable rs junk) :
    ∃ s, sanitize (encode rs ++ junk) = .ok s ∧
      s.out = encode (rs.map RawStructure.redact) ++ junk ∧
      (∀ n, n = 0 ∨ (encode rs).length ≤ n →
        walkStructures s.out n = .ok (rs.map RawStructure.redact)) ∧
      (s.out = encode rs ++ junk ↔ ∀ r ∈ rs, r.redact = r) := by
  obtain ⟨s, frs, hs, hout, ha, hredacted⟩ := exists_sanitize_encode h
  have hwalk : ∀ n, n = 0 ∨ (encode rs).length ≤ n →
      walkStructures s.out n = .ok (rs.map RawStructure.redact) := fun n hn => by
    rw [ha.walkStructures_eq hn, hredacted]
  refine ⟨s, hs, hout, hwalk, fun hsame => ?_, fun hself => ?_⟩
  · have horiginal : walkStructures (encode rs ++ junk) 0 = .ok rs := by
      refine walkStructures_encode h.encodable h.delimited h.type_ne junk ?_
      rcases h.last with hlast | rfl
      · exact Or.inl ⟨hlast, Or.inl rfl⟩
      · exact Or.inr (by rw [List.append_nil, tableEnd_eq_length (Or.inl rfl)])
    have hrs : rs.map RawStructure.redact = rs := by
      have := hwalk 0 (Or.inl rfl)
      rw [hsame, horiginal, Except.ok.injEq] at this
      exact this.symm
    exact List.map_inj_left.mp (hrs.trans (List.map_id rs).symm)
  · rw [hout, List.map_congr_left hself, List.map_id']

/-- A baseboard with a product name and a serial number. -/
theorem sanitize_encode_baseboard : ∃ s,
    sanitize [2, 8, 7, 0, 0, 1, 0, 2, 80, 0, 83, 78, 0, 0] = .ok s ∧
      s.out = [2, 8, 7, 0, 0, 1, 0, 2, 80, 0, 65, 65, 0, 0] := by
  obtain ⟨s, hs, hout, -⟩ := sanitize_encode [⟨2, 7, [0, 1, 0, 2], [['P'], ['S', 'N']]⟩] []
    ⟨List.forall_mem_singleton.mpr ⟨by decide, by decide, by decide, by decide, by simp,
        by decide⟩,
      List.forall_mem_singleton.mpr (delimited_of_ne_nil (by decide)), by decide, Or.inr rfl⟩
  exact ⟨s, hs, hout⟩

end TruenasPydmi
