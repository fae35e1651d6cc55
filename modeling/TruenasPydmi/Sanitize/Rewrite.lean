/-
  Sanitize/Rewrite.lean --- what the sanitizer does to one structure.

  `UuidByte` and `SensitiveChar` name the positions that are rewritten, without
  the loops of the sanitizer.  `Alike` says that two tables have the same header,
  the same index bytes and the same NULs in a structure.  Tables that are alike
  in a structure have the same boundaries there and rewrite the same positions,
  and rewriting makes a table alike to itself: that is why the sanitizer, which
  reads what it has already rewritten, never loses its way.
-/
import TruenasPydmi.Sanitize
import TruenasPydmi.Walk.Stream

set_option autoImplicit false

namespace TruenasPydmi

open TruenasPydmi.Foundation TruenasPydmi.Python

/-! ## The positions that are rewritten -/

/-- The start and the length of each string of a structure. -/
def Frame.spans (buf : Bytes) (fr : Frame) : List (Nat × Nat) :=
  stringSetSpans buf fr.formattedEnd fr.term

/-- A string of a structure is what its span holds. -/
theorem FrameAt.string_span {buf : Bytes} {stop o o' k : Nat} {fr : Frame} {s : Str}
    (h : FrameAt buf stop o fr o') (hs : (fr.decode buf).strings[k]? = some s) :
    ∃ start slen, (fr.spans buf)[k]? = some (start, slen) ∧
      s = text (slice buf start (start + slen)) := by
  have hset : (fr.decode buf).strings = stringSet buf fr.formattedEnd fr.term := rfl
  rw [hset, stringSet] at hs
  unfold Frame.spans stringSetSpans
  split at hs
  · simp at hs
  · rename_i hne
    rw [if_neg hne]
    rw [List.getElem?_map, Option.map_eq_some_iff] at hs
    obtain ⟨item, hitem, rfl⟩ := hs
    have hlt := (List.getElem?_eq_some_iff.mp hitem).1
    rw [← length_spans] at hlt
    have hspan := List.getElem?_eq_getElem hlt
    obtain ⟨-, -, hslice⟩ := h.fits.closes.slice_of_spans hspan
    rw [hitem, Option.some.injEq] at hslice
    exact ⟨_, _, hspan, by rw [hslice]⟩

/-- The position is one of the formatted bytes 4 to 19 of a Type 1 structure with
at least 20 formatted bytes. -/
def UuidByte (buf : Bytes) (fr : Frame) (j : Nat) : Prop :=
  fr.type buf = 1 ∧ 4 + 20 ≤ fr.length ∧ fr.start + 4 + 4 ≤ j ∧ j ≤ fr.start + 4 + 19

/-- The position is inside a string that an index byte of the structure
designates; the index byte is present and stands where a serial number or an asset
tag is referred to. -/
def SensitiveChar (buf : Bytes) (fr : Frame) (j : Nat) : Prop :=
  ∃ field ∈ sensitiveStringFields, field.1.1 = fr.type buf ∧ 4 + field.1.2 < fr.length ∧
    ∃ (stringIdx : UInt8) (start slen : Nat),
      buf[fr.start + 4 + field.1.2]? = some stringIdx ∧ 1 ≤ stringIdx.toNat ∧
      (fr.spans buf)[stringIdx.toNat - 1]? = some (start, slen) ∧ start ≤ j ∧ j < start + slen

/-- In the structure, `out` is `buf` with these positions rewritten. -/
structure RewrittenAt (buf : Bytes) (fr : Frame) (out : Bytes) : Prop where
  uuid : ∀ j, UuidByte buf fr j → out[j]? = some 0
  char : ∀ j, SensitiveChar buf fr j → out[j]? = some 65
  other : ∀ j, fr.start ≤ j → j < fr.next → ¬ UuidByte buf fr j → ¬ SensitiveChar buf fr j →
    out[j]? = buf[j]?

/-- The writes the sanitizer makes to a structure. -/
def Frame.writes (buf : Bytes) (fr : Frame) : List (Write UInt8) :=
  structureWrites buf (fr.type buf) fr.start fr.formattedEnd (fr.spans buf)

/-- The table with one structure rewritten. -/
def rewrite (buf : Bytes) (fr : Frame) : Bytes := writeAll buf (fr.writes buf)

theorem length_rewrite (buf : Bytes) (fr : Frame) : (rewrite buf fr).length = buf.length :=
  length_writeAll _ _

section

variable {buf : Bytes} {stop o o' : Nat} {fr : Frame}

theorem UuidByte.bounds {j : Nat} (h : UuidByte buf fr j) :
    fr.start + 8 ≤ j ∧ j < fr.formattedEnd := by
  obtain ⟨-, hlength, hstart, hend⟩ := h
  rw [Frame.formattedEnd]
  omega

/-- A rewritten character stands in the string set and is not a NUL. -/
theorem SensitiveChar.bounds {j : Nat} (hfr : FrameAt buf stop o fr o')
    (h : SensitiveChar buf fr j) : fr.formattedEnd ≤ j ∧ j < fr.term ∧ buf[j]? ≠ some 0 := by
  obtain ⟨-, -, -, -, stringIdx, start, slen, -, -, hspan, hstart, hend⟩ := h
  unfold Frame.spans stringSetSpans at hspan
  split at hspan
  · simp at hspan
  · have hne := hfr.fits.closes.ne_of_spans hspan hstart hend
    obtain ⟨hle, hle', -⟩ := hfr.fits.closes.slice_of_spans hspan
    exact ⟨by omega, by omega, hne⟩

/-- A write of the sanitizer reaches exactly the positions named. -/
theorem covers_writes {w : Write UInt8} {j : Nat} (hfr : FrameAt buf stop o fr o')
    (hw : w ∈ fr.writes buf) (hj : w.Covers j) :
    (UuidByte buf fr j ∧ w.value = 0) ∨ (SensitiveChar buf fr j ∧ w.value = 65) := by
  have hlen := hfr.le_length
  have hfe := hfr.formattedEnd_add_two_le
  rcases List.mem_append.mp hw with hw | hw
  · obtain ⟨htype, hstart, hend, hfits, hvalue⟩ := uuidWrites_covers hw hj
    rw [Frame.formattedEnd] at hfits
    exact Or.inl ⟨⟨htype, by omega, by omega, by omega⟩, hvalue⟩
  · obtain ⟨field, hfield, hw⟩ := List.mem_filterMap.mp hw
    refine Or.inr ⟨⟨field, hfield, ?_⟩, (fieldWrite_eq_some hw).2⟩
    unfold fieldWrite at hw
    split at hw
    · rename_i h
      have hpresent := h.2
      rw [Frame.formattedEnd] at hpresent
      have hidx : buf[fr.start + 4 + field.1.2]? =
          some (buf.getD (fr.start + 4 + field.1.2) 0) := getElem?_eq_some_getD 0 (by omega)
      simp only at hw
      split at hw
      · simp at hw
      · obtain ⟨span, hspan, rfl⟩ := Option.map_eq_some_iff.mp hw
        exact ⟨h.1, by omega, _, span.1, span.2, hidx, by omega, hspan, hj⟩
    · simp at hw

theorem UuidByte.exists_write {j : Nat} (h : UuidByte buf fr j) :
    ∃ w ∈ fr.writes buf, w.Covers j := by
  obtain ⟨htype, hlength, hstart, hend⟩ := h
  refine ⟨⟨fr.start + 8, 16, 0⟩, List.mem_append_left _ ?_, ?_⟩
  · rw [uuidWrites, if_pos ⟨htype, by rw [Frame.formattedEnd]; omega⟩]
    simp
  · exact ⟨by simpa using hstart, by simp only; omega⟩

theorem SensitiveChar.exists_write {j : Nat} (h : SensitiveChar buf fr j) :
    ∃ w ∈ fr.writes buf, w.Covers j := by
  obtain ⟨field, hfield, htype, hpresent, stringIdx, start, slen, hidx, hpos, hspan, hj⟩ := h
  refine ⟨⟨start, slen, 65⟩, List.mem_append_right _ (List.mem_filterMap.mpr ⟨field, hfield, ?_⟩),
    hj⟩
  rw [fieldWrite, if_pos ⟨htype, by rw [Frame.formattedEnd]; omega⟩]
  simp only [List.getD_eq_getElem?_getD, hidx, Option.getD_some]
  rw [if_neg (by omega), hspan]
  rfl

/-- Rewriting a structure changes the positions named and no others, in the
structure or outside. -/
theorem rewrite_spec (hfr : FrameAt buf buf.length o fr o') :
    RewrittenAt buf fr (rewrite buf fr) ∧
      ∀ j, j < o ∨ o' ≤ j → (rewrite buf fr)[j]? = buf[j]? := by
  have hlen := hfr.le_length
  have hfe := hfr.formattedEnd_add_two_le
  have hnext := hfr.next_eq
  rw [Frame.next] at hnext
  have hnot : ∀ j, ¬ UuidByte buf fr j → ¬ SensitiveChar buf fr j →
      (rewrite buf fr)[j]? = buf[j]? := by
    intro j huuid hchar
    refine getElem?_writeAll_of_not_covers (fun w hw hcovers => ?_) _
    rcases covers_writes hfr hw hcovers with ⟨h, -⟩ | ⟨h, -⟩
    · exact huuid h
    · exact hchar h
  have hdisjoint : ∀ j, UuidByte buf fr j → ¬ SensitiveChar buf fr j := by
    intro j huuid hchar
    have := huuid.bounds
    have := hchar.bounds hfr
    omega
  refine ⟨⟨fun j huuid => ?_, fun j hchar => ?_, fun j _ _ => hnot j⟩, fun j hj => ?_⟩
  · refine getElem?_writeAll_of_covers (fun w hw hcovers => ?_) huuid.exists_write ?_
    · rcases covers_writes hfr hw hcovers with ⟨-, h⟩ | ⟨h, -⟩
      · exact h
      · exact absurd h (hdisjoint j huuid)
    · have := huuid.bounds
      omega
  · refine getElem?_writeAll_of_covers (fun w hw hcovers => ?_) hchar.exists_write ?_
    · rcases covers_writes hfr hw hcovers with ⟨h, -⟩ | ⟨-, h⟩
      · exact absurd hchar (hdisjoint j h)
      · exact h
    · have := hchar.bounds hfr
      omega
  · refine hnot j (fun h => ?_) fun h => ?_
    · have := h.bounds
      rw [hfr.start_eq] at this
      omega
    · have := h.bounds hfr
      have := hfr.formattedEnd_eq
      omega

end

/-! ## Tables that are alike in a structure -/

/-- The two tables have the same header, the same index bytes and the same NULs in
the structure. -/
structure Alike (buf : Bytes) (fr : Frame) (buf' : Bytes) : Prop where
  header : ∀ j, fr.start ≤ j → j < fr.start + 4 → buf'[j]? = buf[j]?
  index : ∀ field ∈ sensitiveStringFields, field.1.1 = fr.type buf → 4 + field.1.2 < fr.length →
    buf'[fr.start + 4 + field.1.2]? = buf[fr.start + 4 + field.1.2]?
  nul : ∀ j, fr.formattedEnd ≤ j → j < fr.next → (buf'[j]? = some 0 ↔ buf[j]? = some 0)

namespace Alike

variable {buf buf' : Bytes} {stop o o' : Nat} {fr : Frame}

theorem slice_eq (h : Alike buf fr buf') {a b : Nat} (hb : b ≤ 4) :
    slice buf' (fr.start + a) (fr.start + b) = slice buf (fr.start + a) (fr.start + b) := by
  have hagree : Agree buf' fr.start buf fr.start 4 :=
    fun k hk => h.header _ (Nat.le_add_right _ _) (by omega)
  exact hagree.slice_eq hb

theorem type_eq (h : Alike buf fr buf') : fr.type buf' = fr.type buf := by
  have := h.slice_eq (a := 0) (b := 1) (by omega)
  rw [Nat.add_zero] at this
  rw [Frame.type, Frame.type, this]

theorem symm (h : Alike buf fr buf') : Alike buf' fr buf :=
  ⟨fun j hj hj' => (h.header j hj hj').symm,
    fun field hfield htype hpresent => (h.index field hfield (h.type_eq ▸ htype) hpresent).symm,
    fun j hj hj' => (h.nul j hj hj').symm⟩

/-- The boundaries are the same. -/
theorem frameAt (h : Alike buf fr buf') {stop' : Nat} (hfr : FrameAt buf stop o fr o')
    (hstop : fr.formattedEnd ≤ stop') : FrameAt buf' stop' o fr o' := by
  have hfe := hfr.formattedEnd_eq
  have hlt := hfr.lt
  have hnext := hfr.next_eq
  rw [hfe] at hstop
  have hlength : buf'[o + 1]? = buf[o + 1]? := by
    refine h.header (o + 1) ?_ ?_
    all_goals
      rw [hfr.start_eq]
      omega
  have := hfr.of_boundaries hlength
    (fun k hk hk' => h.nul (o + k) (by omega) (by omega)) hstop
  rwa [hfr.eta, Nat.add_sub_cancel' (Nat.le_of_lt hlt)] at this

theorem spans_eq (h : Alike buf fr buf') (hfr : FrameAt buf stop o fr o') :
    fr.spans buf' = fr.spans buf := by
  unfold Frame.spans stringSetSpans
  rw [hfr.fits.closes.spans_congr fun k hk hk' => h.nul k hk (by rw [Frame.next]; omega)]

/-- The positions that are rewritten are the same. -/
theorem uuidByte_iff (h : Alike buf fr buf') (j : Nat) :
    UuidByte buf' fr j ↔ UuidByte buf fr j := by
  rw [UuidByte, UuidByte, h.type_eq]

theorem sensitiveChar_iff (h : Alike buf fr buf') (hfr : FrameAt buf stop o fr o') (j : Nat) :
    SensitiveChar buf' fr j ↔ SensitiveChar buf fr j := by
  unfold SensitiveChar
  rw [h.type_eq, h.spans_eq hfr]
  refine exists_congr fun field => and_congr_right fun hfield => and_congr_right fun htype =>
    and_congr_right fun hpresent => ?_
  rw [h.index field hfield htype hpresent]

/-- The structure has the same type and handle, a formatted area of the same
length, and as many strings. -/
theorem decode_shape (h : Alike buf fr buf') (hfr : FrameAt buf stop o fr o')
    (hstop : stop ≤ buf'.length) :
    (fr.decode buf').type = (fr.decode buf).type ∧
      (fr.decode buf').handle = (fr.decode buf).handle ∧
      (fr.decode buf').formatted.length = (fr.decode buf).formatted.length ∧
      (fr.decode buf').strings.length = (fr.decode buf).strings.length := by
  have hle := hfr.le_length
  have hfe := hfr.formattedEnd_add_two_le
  have hfits := hfr.fits.le_stop
  refine ⟨h.type_eq, ?_, ?_, ?_⟩
  · exact congrArg fromLE (h.slice_eq (a := 2) (b := 4) le_rfl)
  · show (slice buf' _ _).length = (slice buf _ _).length
    rw [length_slice_of_le (by omega), length_slice_of_le (by omega)]
  · show (stringSet buf' _ _).length = (stringSet buf _ _).length
    have hspans := congrArg List.length (h.spans_eq hfr)
    unfold Frame.spans stringSetSpans at hspans
    unfold stringSet
    split
    · rfl
    · rename_i hne
      simpa [hne, length_spans] using hspans

end Alike

/-- Tables that are alike in every structure are accepted with the same
boundaries. -/
theorem Accepts.of_alike {buf buf' : Bytes} {stop e : Nat} {frs : List Frame}
    (h : Accepts buf stop 0 frs e) (halike : ∀ fr ∈ frs, Alike buf fr buf') :
    Accepts buf' stop 0 frs e := by
  obtain ⟨htile, htype, hend⟩ := accepts_iff_tiling.mp h
  refine accepts_iff_tiling.mpr ⟨?_, fun fr hfr => ?_, hend.imp_left ?_⟩
  · exact htile.imp fun fr hfr o o' hat => (halike fr hfr).frameAt hat hat.fits.le_stop
  · rw [(halike fr (List.dropLast_subset _ hfr)).type_eq]
    exact htype fr hfr
  · rintro ⟨fr, hfr, ht⟩
    exact ⟨fr, hfr, (halike fr (List.mem_of_getLast? hfr)).type_eq.trans ht⟩

section

variable {buf buf' out out' : Bytes} {stop o o' : Nat} {fr : Frame}

/-- A table that is the same outside the positions that are rewritten, and has no
NUL in place of a sensitive character, is alike in the structure. -/
theorem alike_of_same (hfr : FrameAt buf stop o fr o')
    (hsame : ∀ j, fr.start ≤ j → j < fr.next → ¬ UuidByte buf fr j → ¬ SensitiveChar buf fr j →
      buf'[j]? = buf[j]?)
    (hchar : ∀ j, SensitiveChar buf fr j → buf'[j]? ≠ some 0) : Alike buf fr buf' := by
  have hfour := hfr.fits.four_le
  have hfe := hfr.formattedEnd_add_two_le
  have hnext := hfr.next_eq
  have hformatted : ∀ j, fr.start ≤ j → j < fr.formattedEnd → ¬ UuidByte buf fr j →
      buf'[j]? = buf[j]? := by
    intro j hj hj' huuid
    refine hsame j hj (by omega) huuid fun h => ?_
    have := h.bounds hfr
    omega
  rw [Frame.formattedEnd] at hformatted hfe
  refine ⟨fun j hj hj' => ?_, fun field hfield htype hpresent => ?_, fun j hj hj' => ?_⟩
  · refine hformatted j hj (by omega) fun huuid => ?_
    have := huuid.bounds
    omega
  · refine hformatted _ (by omega) (by omega) fun huuid => ?_
    have := huuid.bounds
    have := systemField_lt field hfield (htype.trans huuid.1)
    omega
  · by_cases h : SensitiveChar buf fr j
    · exact iff_of_false (hchar j h) (h.bounds hfr).2.2
    · rw [Frame.formattedEnd] at hj
      rw [hsame j (by omega) hj' (fun huuid => ?_) h]
      have := huuid.bounds
      rw [Frame.formattedEnd] at this
      omega

/-- Rewriting a structure leaves the table alike there. -/
theorem RewrittenAt.alike (h : RewrittenAt buf fr out) (hfr : FrameAt buf stop o fr o') :
    Alike buf fr out := by
  refine alike_of_same hfr h.other fun j hchar => ?_
  rw [h.char j hchar]
  decide

/-- Only the bytes of the structure matter for whether it is rewritten. -/
theorem RewrittenAt.of_eq (h : RewrittenAt buf fr out) (hfr : FrameAt buf stop o fr o')
    (hout : ∀ j, fr.start ≤ j → j < fr.next → out'[j]? = out[j]?) : RewrittenAt buf fr out' := by
  have hfe := hfr.formattedEnd_add_two_le
  have hnext := hfr.next_eq
  refine ⟨fun j huuid => ?_, fun j hchar => ?_, fun j hj hj' huuid hchar => ?_⟩
  · have := huuid.bounds
    rw [hout j (by omega) (by omega), h.uuid j huuid]
  · have hbounds := hchar.bounds hfr
    rw [Frame.formattedEnd] at hbounds
    rw [hout j (by omega) (by rw [Frame.next]; omega), h.char j hchar]
  · rw [hout j hj hj', h.other j hj hj' huuid hchar]

/-- Alike tables that agree outside the rewritten positions are rewritten alike. -/
theorem RewrittenAt.congr (h : RewrittenAt buf fr out) (halike : Alike buf fr buf')
    (hfr : FrameAt buf stop o fr o')
    (hother : ∀ j, fr.start ≤ j → j < fr.next → ¬ UuidByte buf fr j → ¬ SensitiveChar buf fr j →
      buf'[j]? = buf[j]?) : RewrittenAt buf' fr out := by
  refine ⟨fun j huuid => ?_, fun j hchar => ?_, fun j hj hj' huuid hchar => ?_⟩
  · exact h.uuid j ((halike.uuidByte_iff j).mp huuid)
  · exact h.char j ((halike.sensitiveChar_iff hfr j).mp hchar)
  · rw [halike.uuidByte_iff] at huuid
    rw [halike.sensitiveChar_iff hfr] at hchar
    rw [h.other j hj hj' huuid hchar, hother j hj hj' huuid hchar]

/-- Tables with the same bytes in a structure are rewritten alike there. -/
theorem RewrittenAt.congr_of_eq (h : RewrittenAt buf fr out) (hfr : FrameAt buf stop o fr o')
    (hsame : ∀ j, fr.start ≤ j → j < fr.next → buf'[j]? = buf[j]?) : RewrittenAt buf' fr out := by
  have halike : Alike buf fr buf' := by
    refine alike_of_same hfr (fun j hj hj' _ _ => hsame j hj hj') fun j hchar => ?_
    have hbounds := hchar.bounds hfr
    rw [Frame.formattedEnd] at hbounds
    rw [hsame j (by omega) (by rw [Frame.next]; omega)]
    exact hbounds.2.2
  exact h.congr halike hfr fun j hj hj' _ _ => hsame j hj hj'

/-- What a structure is rewritten to is determined. -/
theorem RewrittenAt.unique (h : RewrittenAt buf fr out) (h' : RewrittenAt buf fr out') {j : Nat}
    (hj : fr.start ≤ j) (hj' : j < fr.next) : out[j]? = out'[j]? := by
  by_cases huuid : UuidByte buf fr j
  · rw [h.uuid j huuid, h'.uuid j huuid]
  · by_cases hchar : SensitiveChar buf fr j
    · rw [h.char j hchar, h'.char j hchar]
    · rw [h.other j hj hj' huuid hchar, h'.other j hj hj' huuid hchar]

end

end TruenasPydmi
