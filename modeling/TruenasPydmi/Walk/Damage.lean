/-
  Walk/Damage.lean --- what a damaged byte can do.

  Where the structures of a table stand is decided by its skeleton: the type and
  the length byte of each structure, and the NULs of its string set.  A table that
  differs from another inside one structure and has the same skeleton there is
  accepted with the same boundaries, and every other structure is the same
  (`walkStructures_of_skeleton`).  So a single byte outside the skeleton that
  changes reaches one value of one structure: its handle, one byte of its formatted
  area, or one of its strings (`walkStructures_set`).
-/
import TruenasPydmi.Walk.Splice

set_option autoImplicit false

namespace TruenasPydmi

open TruenasPydmi.Foundation TruenasPydmi.Python

/-- In the structure, the two tables have the same type byte, the same length byte
and the same NULs in the string set. -/
structure SameSkeleton (buf : Bytes) (fr : Frame) (buf' : Bytes) : Prop where
  type : buf'[fr.start]? = buf[fr.start]?
  length : buf'[fr.start + 1]? = buf[fr.start + 1]?
  nul : ∀ j, fr.formattedEnd ≤ j → j < fr.next → (buf'[j]? = some 0 ↔ buf[j]? = some 0)

section

variable {buf buf' : Bytes} {stop o o' s e i : Nat} {fr : Frame} {frs gs : List Frame}

/-- The skeleton decides the boundaries of the structure. -/
theorem SameSkeleton.frameAt (h : SameSkeleton buf fr buf') (hfr : FrameAt buf stop o fr o') :
    FrameAt buf' stop o fr o' := by
  have hfe := hfr.formattedEnd_eq
  have hfits := hfr.fits.le_stop
  have hlength := h.length
  have hnext := hfr.next_eq
  rw [hfr.start_eq] at hlength
  have := hfr.of_boundaries hlength (fun k hk hk' => h.nul (o + k) (by omega) (by omega))
    (show o + fr.length ≤ stop by omega)
  rwa [hfr.eta, Nat.add_sub_cancel' (Nat.le_of_lt hfr.lt)] at this

theorem SameSkeleton.type_eq (h : SameSkeleton buf fr buf') : fr.type buf' = fr.type buf := by
  have hslice : slice buf' fr.start (fr.start + 1) = slice buf fr.start (fr.start + 1) := by
    have hagree : Agree buf' fr.start buf fr.start 1 := by
      intro k hk
      obtain rfl : k = 0 := by omega
      exact h.type
    exact hagree.slice_eq (a := 0) le_rfl
  rw [Frame.type, Frame.type, hslice]

/-- At most one structure starts at a position. -/
theorem FrameAt.unique {fr' : Frame} {o'' : Nat} (h : FrameAt buf stop o fr o')
    (h' : FrameAt buf stop o fr' o'') : fr = fr' ∧ o' = o'' := by
  obtain ⟨L, hL, hlength⟩ := h.exists_lengthByte
  have hlength' := h'.toNat_lengthByte hL
  have hcloses := h.fits.closes
  have hcloses' := h'.fits.closes
  rw [h.formattedEnd_eq] at hcloses
  rw [h'.formattedEnd_eq, show fr'.length = fr.length by omega] at hcloses'
  have hterm := hcloses.unique hcloses'
  have hfr : fr = fr' := by
    have hstart := h.start_eq.trans h'.start_eq.symm
    obtain ⟨start, length, term⟩ := fr
    obtain ⟨start', length', term'⟩ := fr'
    simp only at hstart hterm hlength hlength'
    rw [Frame.mk.injEq]
    exact ⟨hstart, by omega, hterm⟩
  exact ⟨hfr, by rw [← h.next_eq, ← h'.next_eq, hfr]⟩

/-- What is accepted goes on behind every run that does not reach its end. -/
theorem Accepts.drop (h : Accepts buf stop o frs e) (hr : Reaches buf stop o gs s)
    (hlen : gs.length < frs.length) : ∃ fr s' post, frs = gs ++ fr :: post ∧
      FrameAt buf stop s fr s' ∧ (fr.type buf = 127 ∧ post = [] ∧ s' = e ∨
        fr.type buf ≠ 127 ∧ Accepts buf stop s' post e) := by
  obtain ⟨htile, htype⟩ := hr
  induction htile generalizing frs with
  | nil o =>
      cases h with
      | atEnd => simp at hlen
      | endOfTable hfr ht => exact ⟨_, _, [], rfl, hfr, Or.inl ⟨ht, rfl, rfl⟩⟩
      | step hfr ht ha => exact ⟨_, _, _, rfl, hfr, Or.inr ⟨ht, ha⟩⟩
  | cons hg _ ih =>
      rw [List.forall_mem_cons] at htype
      cases h with
      | atEnd => simp at hlen
      | endOfTable hfr ht =>
          obtain ⟨rfl, -⟩ := hfr.unique hg
          exact absurd ht htype.1
      | step hfr ht ha =>
          obtain ⟨rfl, rfl⟩ := hfr.unique hg
          obtain ⟨fr, s', post, rfl, hrest⟩ := ih ha (Nat.lt_of_succ_lt_succ hlen) htype.2
          exact ⟨fr, s', post, rfl, hrest⟩

end

/-! ## One string -/

/-- A character that changes into another one changes one string of the set. -/
theorem stringSet_set {buf : Bytes} {i p j : Nat} {v : UInt8} (h : Closes 0 buf i p)
    (hij : i ≤ j) (hjp : j < p) (hj : buf[j]? ≠ some 0) (hv : v ≠ 0) :
    ∃ (k : Nat) (s : Str), k < (stringSet buf i p).length ∧
      stringSet (buf.set j v) i p = (stringSet buf i p).set k s := by
  have hnul : ∀ m, i ≤ m → m ≤ p + 1 → ((buf.set j v)[m]? = some 0 ↔ buf[m]? = some 0) := by
    intro m _ _
    rw [List.getElem?_set]
    split
    · rename_i hjm
      subst hjm
      split
      · exact iff_of_false (by simpa using hv) hj
      · exact iff_of_false (by simp) hj
    · rfl
  have hp : p ≠ i := by omega
  have hspans := h.spans_congr fun m hm hm' => hnul m hm (by omega)
  obtain ⟨k, a, n, hk, ha, hn, huniq⟩ := h.exists_span hij hjp hj
  have hset : ∀ xs : Bytes, stringSet xs i p = (segments 0 xs i p).map text :=
    fun xs => if_neg hp
  have hlen : ∀ xs : Bytes, (stringSet xs i p).length = (spans 0 xs i p).length := by
    intro xs
    rw [hset, List.length_map, length_spans]
  refine ⟨k, text (slice (buf.set j v) a (a + n)), ?_, ?_⟩
  · rw [hlen]
    exact (List.getElem?_eq_some_iff.mp hk).1
  · apply List.ext_getElem?
    intro m
    rw [List.getElem?_set, hlen]
    cases hm : (spans 0 buf i p)[m]? with
    | none =>
        have hm' := List.getElem?_eq_none_iff.mp hm
        have hkm : k ≠ m := by
          have := (List.getElem?_eq_some_iff.mp hk).1
          omega
        rw [if_neg hkm, List.getElem?_eq_none (by rw [hlen, hspans]; exact hm'),
          List.getElem?_eq_none (by rw [hlen]; exact hm')]
    | some span =>
        obtain ⟨b, l⟩ := span
        have hlt := (List.getElem?_eq_some_iff.mp hm).1
        obtain ⟨-, -, hseg⟩ := h.slice_of_spans hm
        obtain ⟨-, -, hseg'⟩ := (h.congr hnul).slice_of_spans (hspans ▸ hm)
        rw [hset, hset, List.getElem?_map, List.getElem?_map, hseg, hseg']
        by_cases hkm : k = m
        · subst hkm
          obtain ⟨rfl, rfl⟩ : a = b ∧ n = l := by simpa [hk] using hm
          rw [if_pos rfl, if_pos hlt]
          rfl
        · -- the other spans do not hold the character
          rw [if_neg hkm, slice_set_of_not_mem]
          by_contra hcover
          exact hkm (huniq m b l hm (by omega) (by omega)).symm

/-! ## One structure -/

/-- A table that differs inside one structure only, and has the same skeleton there,
differs in that structure only. -/
theorem walkStructures_of_skeleton {d d' : Bytes} {rs : List RawStructure} {o : Nat → Nat}
    (h : StreamBoundaries d rs o) {i : Nat} (hi : i < rs.length) (hlen : d'.length = d.length)
    (hout : ∀ j, j < o i ∨ o (i + 1) ≤ j → d'[j]? = d[j]?) :
    ∃ fr, FrameAt d d.length (o i) fr (o (i + 1)) ∧ rs[i] = fr.decode d ∧
      (SameSkeleton d fr d' → walkStructures d' 0 = .ok (rs.set i (fr.decode d'))) := by
  obtain ⟨frs, ha, hrs⟩ := (exists_boundaries_iff d rs _).mp ⟨o, h, rfl⟩
  obtain ⟨gs, hr, htake⟩ := h.reaches hi
  obtain ⟨fr, hfr, hdecode⟩ := (structureAt_iff _ _ _ _).mp (h.structureAt i hi)
  have hgs : gs.length = i := by
    have := congrArg List.length htake
    rwa [List.length_take_of_le (Nat.le_of_lt hi), List.length_map, eq_comm] at this
  obtain ⟨fr', s', post, rfl, hfr', hpost⟩ := ha.drop hr (by
    have := congrArg List.length hrs
    rw [List.length_map] at this
    omega)
  obtain ⟨rfl, rfl⟩ := hfr.unique hfr'
  refine ⟨fr, hfr, hdecode, fun hskeleton => ?_⟩
  have hle := h.le_length
  have hi' := hfr.le_length
  have hlt := hfr.lt
  have hbefore : Agree d' 0 d 0 (o i - 0) := fun k hk => hout _ (by omega)
  have hbehind : Agree d' (o (i + 1)) d (o (i + 1)) (o rs.length - o (i + 1)) :=
    fun k hk => hout _ (by omega)
  have hoi : o i ≤ d.length := by omega
  obtain ⟨hr', hmap⟩ := hr.congr hbefore hoi
  have hrest : ∃ e, Accepts d' d.length (o i) (fr :: post) e ∧
      post.map (Frame.decode d') = post.map (Frame.decode d) := by
    rcases hpost with ⟨ht, rfl, -⟩ | ⟨ht, hpost⟩
    · exact ⟨_, .endOfTable (hskeleton.frameAt hfr) (hskeleton.type_eq.trans ht), rfl⟩
    · obtain ⟨hpost', hmap'⟩ := hpost.congr hbehind hle
      exact ⟨_, .step (hskeleton.frameAt hfr) (hskeleton.type_eq.trans_ne ht) hpost', hmap'⟩
  obtain ⟨e, haccepts, hmap'⟩ := hrest
  rw [walkStructures_ok_iff, tableEnd_eq_length (Or.inl rfl), hlen]
  refine ⟨gs ++ fr :: post, e, hr'.accepts haccepts, ?_⟩
  rw [hrs, List.map_append, List.map_append, List.map_cons, List.map_cons, hmap, hmap',
    List.set_append_right _ _ (by simp [hgs])]
  simp [hgs]

/-! ## One byte -/

section

variable {d : Bytes} {stop o o' j : Nat} {fr : Frame} {v : UInt8}

theorem sameSkeleton_set (hfr : FrameAt d stop o fr o') (hj : o + 2 ≤ j)
    (hnul : j < fr.formattedEnd ∨ d[j]? ≠ some 0 ∧ v ≠ 0) : SameSkeleton d fr (d.set j v) := by
  have hstart := hfr.start_eq
  refine ⟨List.getElem?_set_ne (by omega), List.getElem?_set_ne (by omega), fun m hm _ => ?_⟩
  rcases Nat.lt_or_ge j fr.formattedEnd with hlt | hge
  · rw [List.getElem?_set_ne (by omega)]
  · obtain ⟨hd, hv⟩ := hnul.resolve_left (Nat.not_lt.mpr hge)
    by_cases hjm : j = m
    · subst hjm
      refine iff_of_false ?_ hd
      rw [List.getElem?_set, if_pos rfl]
      split
      · simpa using hv
      · simp
    · rw [List.getElem?_set_ne hjm]

/-- A byte of the handle that changes. -/
theorem FrameAt.decode_set_handle (hfr : FrameAt d stop o fr o') (hj : o + 2 ≤ j)
    (hj' : j < o + 4) :
    fr.decode (d.set j v) =
      { fr.decode d with handle := fromLE (slice (d.set j v) (o + 2) (o + 4)) } := by
  have hstart := hfr.start_eq
  have hfour := hfr.fits.four_le
  have hfe := hfr.formattedEnd_eq
  have htype := slice_set_of_not_mem d (i := fr.start) (j := fr.start + 1) v
    (show j < fr.start ∨ fr.start + 1 ≤ j by omega)
  have hformatted := slice_set_of_not_mem d (i := fr.start + 4) (j := fr.formattedEnd) v
    (show j < fr.start + 4 ∨ fr.formattedEnd ≤ j by omega)
  have hstrings := slice_set_of_not_mem d (i := fr.formattedEnd) (j := fr.term) v
    (show j < fr.formattedEnd ∨ fr.term ≤ j by omega)
  rw [hstart] at htype hformatted
  simp only [Frame.decode, Frame.type, stringSet, segments, hstart, htype, hformatted, hstrings]

/-- A changed byte of the formatted area changes that byte. -/
theorem FrameAt.decode_set_formatted (hfr : FrameAt d stop o fr o') (hj : o + 4 ≤ j)
    (hj' : j < fr.formattedEnd) :
    fr.decode (d.set j v) =
      { fr.decode d with formatted := (fr.decode d).formatted.set (j - (o + 4)) v } := by
  have hstart := hfr.start_eq
  have hle := hfr.fits.closes.le
  rw [Frame.decode, Frame.decode, Frame.type, Frame.type, stringSet, stringSet, segments, segments,
    slice_set_of_not_mem d v (by omega), slice_set_of_not_mem d v (by omega),
    slice_set_of_not_mem d v (Or.inl hj'), slice_set, if_neg (by omega), hstart]

/-- A changed character changes one string. -/
theorem FrameAt.decode_set_char (hfr : FrameAt d stop o fr o') (hj : fr.formattedEnd ≤ j)
    (hj' : j < o') (hd : d[j]? ≠ some 0) (hv : v ≠ 0) :
    ∃ (k : Nat) (s : Str), k < (fr.decode d).strings.length ∧
      fr.decode (d.set j v) = { fr.decode d with strings := (fr.decode d).strings.set k s } := by
  have hfour := hfr.fits.four_le
  have hfe := hfr.formattedEnd_eq
  have hstart := hfr.start_eq
  have hnext := hfr.next_eq
  rw [Frame.next] at hnext
  obtain ⟨hterm, hterm'⟩ := hfr.fits.closes.doubled.2
  have hlt : j < fr.term := by
    by_contra hge
    rcases (by omega : j = fr.term ∨ j = fr.term + 1) with rfl | rfl
    · exact hd hterm
    · exact hd hterm'
  obtain ⟨k, s, hk, hset⟩ := stringSet_set hfr.fits.closes hj hlt hd hv
  refine ⟨k, s, hk, ?_⟩
  rw [Frame.decode, Frame.decode, Frame.type, Frame.type, hset, slice_set_of_not_mem d v (by omega),
    slice_set_of_not_mem d v (by omega), slice_set_of_not_mem d v (by omega)]

end

/-- What stands behind the structures that are accepted is not read. -/
theorem walkStructures_set_of_le {d : Bytes} {rs : List RawStructure} {frs : List Frame}
    {e j : Nat} {v : UInt8} (ha : Accepts d d.length 0 frs e) (hrs : rs = frs.map (Frame.decode d))
    (hj : e ≤ j) : walkStructures (d.set j v) 0 = .ok rs := by
  have hagree : Agree (d.set j v) 0 d 0 (e - 0) :=
    fun k hk => List.getElem?_set_ne (by omega)
  obtain ⟨ha', hdecode⟩ := ha.congr hagree (tiling_le_length ha.tiling (Nat.zero_le _))
  refine walkStructures_ok_iff.mpr ⟨frs, e, ?_, hrs.trans hdecode.symm⟩
  rwa [tableEnd_eq_length (Or.inl rfl), List.length_set]

/-- A byte of a structure that changes and is no type byte, no length byte and no NUL
of a string set, before or after, damages one structure, and in it one value: the
handle, one byte of the formatted area, or one string.  A byte behind an End-of-Table
damages nothing. -/
theorem walkStructures_set (d : Bytes) (rs : List RawStructure)
    (h : walkStructures d 0 = .ok rs) :
    ∃ o : Nat → Nat, StreamBoundaries d rs o ∧
      (∀ (j : Nat) (v : UInt8), o rs.length ≤ j → walkStructures (d.set j v) 0 = .ok rs) ∧
      ∀ (i : Nat) (hi : i < rs.length) (j : Nat) (v : UInt8),
        (j = o i + 2 → walkStructures (d.set j v) 0 =
          .ok (rs.set i { rs[i] with handle := v.toNat + 256 * (rs[i].handle / 256) })) ∧
        (j = o i + 3 → walkStructures (d.set j v) 0 =
          .ok (rs.set i { rs[i] with handle := rs[i].handle % 256 + 256 * v.toNat })) ∧
        (o i + 4 ≤ j → j < o i + 4 + rs[i].formatted.length → walkStructures (d.set j v) 0 =
          .ok (rs.set i { rs[i] with formatted := rs[i].formatted.set (j - (o i + 4)) v })) ∧
        (o i + 4 + rs[i].formatted.length ≤ j → j < o (i + 1) → d[j]? ≠ some 0 → v ≠ 0 →
          ∃ (k : Nat) (s : Str), k < rs[i].strings.length ∧ walkStructures (d.set j v) 0 =
            .ok (rs.set i { rs[i] with strings := rs[i].strings.set k s })) := by
  obtain ⟨frs, e, ha, hrs⟩ := walkStructures_ok_iff.mp h
  rw [tableEnd_eq_length (Or.inl rfl)] at ha
  obtain ⟨o, hb, rfl⟩ := (exists_boundaries_iff d rs e).mpr ⟨frs, ha, hrs⟩
  refine ⟨o, hb, fun j v hj => walkStructures_set_of_le ha hrs hj, fun i hi j v => ?_⟩
  obtain ⟨fr, hfr, hdecode⟩ := (structureAt_iff _ _ _ _).mp (hb.structureAt i hi)
  have hfe := hfr.formattedEnd_add_two_le
  have hfe_eq := hfr.formattedEnd_eq
  have hfour := hfr.fits.four_le
  have hlen := hfr.le_length
  have hformatted : o i + 4 + rs[i].formatted.length = fr.formattedEnd := by
    rw [hdecode, hfr.length_formatted]
    omega
  -- what is left is to decode the one structure that differs
  have hstep : ∀ {j}, o i + 2 ≤ j → j < o (i + 1) →
      (j < fr.formattedEnd ∨ d[j]? ≠ some 0 ∧ v ≠ 0) →
      walkStructures (d.set j v) 0 = .ok (rs.set i (fr.decode (d.set j v))) := by
    intro j hj hj' hnul
    obtain ⟨fr', hfr', -, hwalk⟩ := walkStructures_of_skeleton hb hi List.length_set
      fun m hm => List.getElem?_set_ne (show j ≠ m by omega)
    obtain ⟨rfl, -⟩ := hfr.unique hfr'
    exact hwalk (sameSkeleton_set hfr hj hnul)
  rw [hformatted, hdecode]
  obtain ⟨type, L, lo, hi, ⟨-, -, hlo, hhi⟩, -, -, hhandle⟩ := hfr.header
  have hlo_lt := lo.toNat_lt
  refine ⟨?_, ?_, fun hj hj' => ?_, fun hj hj' hd hv => ?_⟩
  · rintro rfl
    rw [hstep le_rfl (by omega) (Or.inl (by omega)),
      hfr.decode_set_handle le_rfl (by omega),
      fromLE_slice_two (List.getElem?_set_self (by omega))
        ((List.getElem?_set_ne (by omega)).trans hhi), hhandle,
      show (lo.toNat + 256 * hi.toNat) / 256 = hi.toNat by omega]
  · rintro rfl
    rw [hstep (by omega) (by omega) (Or.inl (by omega)),
      hfr.decode_set_handle (by omega) (by omega),
      fromLE_slice_two ((List.getElem?_set_ne (by omega)).trans hlo)
        (List.getElem?_set_self (by omega)), hhandle,
      show (lo.toNat + 256 * hi.toNat) % 256 = lo.toNat by omega]
  · rw [hstep (by omega) (by omega) (Or.inl hj'), hfr.decode_set_formatted hj hj']
  · obtain ⟨k, s, hk, hset⟩ := hfr.decode_set_char hj hj' hd hv
    exact ⟨k, s, hk, by rw [hstep (by omega) hj' (Or.inr ⟨hd, hv⟩), hset]⟩

/-- A damaged string index in the first of two structures. -/
theorem walkStructures_set_baseboard :
    walkStructures ([2, 5, 7, 0, 1, 65, 0, 0, 3, 4, 9, 0, 0, 0].set 4 2) 0 =
      .ok [⟨2, 7, [2], [['A']]⟩, ⟨3, 9, [], []⟩] := by
  obtain ⟨o, hb, -, hset⟩ := walkStructures_set [2, 5, 7, 0, 1, 65, 0, 0, 3, 4, 9, 0, 0, 0]
    [⟨2, 7, [1], [['A']]⟩, ⟨3, 9, [], []⟩] (by decide)
  have hfirst := (hset 0 (by simp) 4 2).2.2.1
  rw [hb.zero] at hfirst
  exact hfirst le_rfl (by simp)

end TruenasPydmi
