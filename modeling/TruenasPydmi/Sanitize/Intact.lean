/-
  Sanitize/Intact.lean --- the sanitizer rewrites exactly the sensitive bytes and
  leaves the structure stream intact.

  For an accepted table the run lemma gives the output byte by byte, and
  `RewrittenAt.alike` says that the output is alike to the input in every
  structure.  Hence the walker accepts the output with the same boundaries, and
  two tables that are alike in every structure and agree outside the sensitive
  positions have the same output; the output itself is one such table.
-/
import TruenasPydmi.Sanitize.Run
import TruenasPydmi.Walk.Grammar

set_option autoImplicit false

namespace TruenasPydmi

open TruenasPydmi.Foundation TruenasPydmi.Python

/-- The position holds a byte of a UUID or of a sensitive string of one of the
structures. -/
def Sensitive (buf : Bytes) (frs : List Frame) (j : Nat) : Prop :=
  ∃ fr ∈ frs, UuidByte buf fr j ∨ SensitiveChar buf fr j

section

variable {d : Bytes} {frs : List Frame} {e : Nat}

/-- What the sanitizer makes of an accepted table. -/
theorem sanitize_of_accepts (ha : Accepts d d.length 0 frs e) :
    ∃ s, sanitize d = .ok s ∧ s.out.length = d.length ∧
      (∀ fr ∈ frs, RewrittenAt d fr s.out) ∧ ∀ j, e ≤ j → s.out[j]? = d[j]? := by
  obtain ⟨htile, htype, hend⟩ := accepts_iff_tiling.mp ha
  obtain ⟨s, hrun, hlength, -, hall, hrest⟩ := sanitizeLoop_run htile htype []
  refine ⟨s, hrun, hlength, hall, fun j hj => ?_⟩
  rcases hend with hlast | hle
  · exact hrest hlast j hj
  · rw [List.getElem?_eq_none (by omega), List.getElem?_eq_none (by omega)]

/-- Sensitive positions lie inside their structures. -/
theorem Sensitive.covering {fr : Frame} {o o' j : Nat} (hfr : FrameAt d d.length o fr o')
    (h : UuidByte d fr j ∨ SensitiveChar d fr j) : fr.start ≤ j ∧ j < fr.next := by
  have hfe := hfr.formattedEnd_add_two_le
  have hnext := hfr.next_eq
  rcases h with h | h
  · have := h.bounds
    omega
  · have hbounds := h.bounds hfr
    rw [Frame.formattedEnd] at hbounds
    rw [Frame.next]
    omega

/-- A position of a structure is sensitive only on behalf of that structure. -/
theorem sensitive_iff_of_mem (ha : Accepts d d.length 0 frs e) {fr : Frame} (hfr : fr ∈ frs)
    {j : Nat} (hj : fr.start ≤ j ∧ j < fr.next) :
    Sensitive d frs j ↔ UuidByte d fr j ∨ SensitiveChar d fr j := by
  constructor
  · rintro ⟨g, hg, h⟩
    obtain ⟨o, o', hat, -⟩ := ha.tiling.exists_at FrameAt.lt hg
    obtain rfl := tiling_covering_unique ha.tiling hg hfr (Sensitive.covering hat h) hj
    exact h
  · exact fun h => ⟨fr, hfr, h⟩

theorem Sensitive.lt (ha : Accepts d d.length 0 frs e) {j : Nat} (h : Sensitive d frs j) :
    j < e := by
  obtain ⟨fr, hfr, h⟩ := h
  obtain ⟨o, o', hat, -, hle⟩ := ha.tiling.exists_at FrameAt.lt hfr
  have := Sensitive.covering hat h
  have := hat.next_eq
  omega

/-- Tables that are alike in every structure and agree outside the sensitive
positions are sanitized to the same bytes. -/
theorem sanitize_congr (ha : Accepts d d.length 0 frs e) {d' : Bytes}
    (hlength : d'.length = d.length) (halike : ∀ fr ∈ frs, Alike d fr d')
    (hother : ∀ j, ¬ Sensitive d frs j → d'[j]? = d[j]?) {s : Sanitized}
    (hs : sanitize d = .ok s) : ∃ s', sanitize d' = .ok s' ∧ s'.out = s.out := by
  obtain ⟨s₀, hs₀, -, hall, hrest⟩ := sanitize_of_accepts ha
  obtain rfl : s = s₀ := Except.ok.inj (hs.symm.trans hs₀)
  have ha' := ha.of_alike halike
  rw [← hlength] at ha'
  obtain ⟨s', hs', -, hall', hrest'⟩ := sanitize_of_accepts ha'
  refine ⟨s', hs', List.ext_getElem? fun j => ?_⟩
  by_cases hj : e ≤ j
  · rw [hrest' j hj, hrest j hj, hother j fun h => by
      have := h.lt ha
      omega]
  · obtain ⟨fr, hfr, m, m', hat, hmj, hjm⟩ :=
      ha.tiling.exists_covering (Nat.zero_le j) (Nat.lt_of_not_le hj)
    have hstart := hat.start_eq
    have hnext := hat.next_eq
    have hback : RewrittenAt d fr s'.out :=
      (hall' fr hfr).congr (halike fr hfr).symm ((halike fr hfr).frameAt hat hat.fits.le_stop)
        fun k hk hk' huuid hchar => by
          rw [(halike fr hfr).uuidByte_iff] at huuid
          rw [(halike fr hfr).sensitiveChar_iff hat] at hchar
          refine (hother k fun h => ?_).symm
          exact ((sensitive_iff_of_mem ha hfr ⟨hk, hk'⟩).mp h).elim huuid hchar
    exact hback.unique (hall fr hfr) (by omega) (by omega)

/-- Where two tables may differ at sensitive positions only, they agree at the
others. -/
theorem eq_of_not_sensitive {d' : Bytes} {j : Nat} (hnot : ¬ Sensitive d frs j)
    (h : d'[j]? = d[j]? ∨ (∃ fr ∈ frs, UuidByte d fr j) ∨
      (∃ fr ∈ frs, SensitiveChar d fr j) ∧ d'[j]? ≠ some 0) : d'[j]? = d[j]? := by
  rcases h with h | ⟨fr, hfr, h⟩ | ⟨⟨fr, hfr, h⟩, -⟩
  · exact h
  · exact absurd ⟨fr, hfr, Or.inl h⟩ hnot
  · exact absurd ⟨fr, hfr, Or.inr h⟩ hnot

/-- Two tables that differ only at sensitive positions, and at no NUL of a string,
are alike in every structure. -/
theorem alike_of_differ (ha : Accepts d d.length 0 frs e) {d' : Bytes}
    (hdiffer : ∀ j, d'[j]? = d[j]? ∨ (∃ fr ∈ frs, UuidByte d fr j) ∨
      (∃ fr ∈ frs, SensitiveChar d fr j) ∧ d'[j]? ≠ some 0) {fr : Frame} (hfr : fr ∈ frs) :
    Alike d fr d' := by
  obtain ⟨o, o', hat, -⟩ := ha.tiling.exists_at FrameAt.lt hfr
  refine alike_of_same hat (fun j hj hj' huuid hchar => ?_) fun j hchar => ?_
  · have hnot : ¬ Sensitive d frs j := fun h =>
      ((sensitive_iff_of_mem ha hfr ⟨hj, hj'⟩).mp h).elim huuid hchar
    exact eq_of_not_sensitive hnot (hdiffer j)
  · have hbounds := hchar.bounds hat
    rcases hdiffer j with h | ⟨g, hg, huuid⟩ | ⟨-, h⟩
    · rw [h]
      exact hbounds.2.2
    · -- the UUID would be that of the same structure, and lie before its strings
      obtain ⟨a, b, hat', -⟩ := ha.tiling.exists_at FrameAt.lt hg
      obtain rfl := tiling_covering_unique ha.tiling hg hfr
        (Sensitive.covering hat' (Or.inl huuid)) (Sensitive.covering hat (Or.inr hchar))
      have := huuid.bounds
      omega
    · exact h

end

/-- The sanitizer rewrites exactly the sensitive bytes and leaves the structure
stream intact.  The frames are where the structures of the table stand. -/
theorem sanitize_intact (d : Bytes) (rs : List RawStructure)
    (h : walkStructures d 0 = .ok rs) :
    ∃ frs e s, Accepts d d.length 0 frs e ∧ rs = frs.map (Frame.decode d) ∧
      sanitize d = .ok s ∧ s.out.length = d.length ∧
      (∀ j, (∃ fr ∈ frs, UuidByte d fr j) → s.out[j]? = some 0) ∧
      (∀ j, (∃ fr ∈ frs, SensitiveChar d fr j) → s.out[j]? = some 65) ∧
      (∀ j, ¬ Sensitive d frs j → s.out[j]? = d[j]?) ∧
      Accepts s.out s.out.length 0 frs e ∧
      walkStructures s.out 0 = .ok (frs.map (Frame.decode s.out)) ∧
      (∀ fr ∈ frs, (fr.decode s.out).type = (fr.decode d).type ∧
        (fr.decode s.out).handle = (fr.decode d).handle ∧
        (fr.decode s.out).formatted.length = (fr.decode d).formatted.length ∧
        (fr.decode s.out).strings.length = (fr.decode d).strings.length) ∧
      (∀ d' : Bytes, d'.length = d.length →
        (∀ j, d'[j]? = d[j]? ∨ (∃ fr ∈ frs, UuidByte d fr j) ∨
          (∃ fr ∈ frs, SensitiveChar d fr j) ∧ d'[j]? ≠ some 0) →
        ∃ s', sanitize d' = .ok s' ∧ s'.out = s.out) ∧
      ∃ s', sanitize s.out = .ok s' ∧ s'.out = s.out := by
  obtain ⟨frs, e, ha, rfl⟩ := walkStructures_ok_iff.mp h
  rw [tableEnd_eq_length (Or.inl rfl)] at ha
  obtain ⟨s, hs, hlength, hall, hrest⟩ := sanitize_of_accepts ha
  have halike : ∀ fr ∈ frs, Alike d fr s.out := by
    intro fr hfr
    obtain ⟨o, o', hat, -⟩ := ha.tiling.exists_at FrameAt.lt hfr
    exact (hall fr hfr).alike hat
  have hother : ∀ j, ¬ Sensitive d frs j → s.out[j]? = d[j]? := by
    intro j hnot
    by_cases hj : e ≤ j
    · exact hrest j hj
    · obtain ⟨fr, hfr, m, m', hat, hmj, hjm⟩ :=
        ha.tiling.exists_covering (Nat.zero_le j) (Nat.lt_of_not_le hj)
      exact (hall fr hfr).other j (by rw [hat.start_eq]; exact hmj) (by rw [hat.next_eq]; exact hjm)
        (fun huuid => hnot ⟨fr, hfr, Or.inl huuid⟩) fun hchar => hnot ⟨fr, hfr, Or.inr hchar⟩
  have ha' : Accepts s.out s.out.length 0 frs e := by
    rw [hlength]
    exact ha.of_alike halike
  refine ⟨frs, e, s, ha, rfl, hs, hlength, ?_, ?_, hother, ha', ?_, ?_, ?_, ?_⟩
  · rintro j ⟨fr, hfr, huuid⟩
    exact (hall fr hfr).uuid j huuid
  · rintro j ⟨fr, hfr, hchar⟩
    exact (hall fr hfr).char j hchar
  · rw [walkStructures_ok_iff, tableEnd_eq_length (Or.inl rfl)]
    exact ⟨frs, e, ha', rfl⟩
  · intro fr hfr
    obtain ⟨o, o', hat, -⟩ := ha.tiling.exists_at FrameAt.lt hfr
    exact (halike fr hfr).decode_shape hat hlength.ge
  · intro d' hlength' hdiffer
    exact sanitize_congr ha hlength' (fun fr hfr => alike_of_differ ha hdiffer hfr)
      (fun j hnot => eq_of_not_sensitive hnot (hdiffer j)) hs
  · exact sanitize_congr ha hlength halike hother hs

/-- A system structure with a UUID and a serial number. -/
theorem sanitize_intact_system :
    ∃ s rs, sanitize [1, 24, 5, 0, 0, 0, 0, 1, 16, 15, 14, 13, 12, 11, 10, 9, 8, 7, 6, 5, 4, 3,
        2, 1, 83, 78, 0, 0] = .ok s ∧ s.out.length = 28 ∧ walkStructures s.out 0 = .ok rs ∧
      ∃ s', sanitize s.out = .ok s' ∧ s'.out = s.out := by
  obtain ⟨_, _, s, -, -, hs, hlength, -, -, -, -, hwalk, -, -, hagain⟩ :=
    sanitize_intact [1, 24, 5, 0, 0, 0, 0, 1, 16, 15, 14, 13, 12, 11, 10, 9, 8, 7, 6, 5, 4, 3,
      2, 1, 83, 78, 0, 0]
      [⟨1, 5, [0, 0, 0, 1, 16, 15, 14, 13, 12, 11, 10, 9, 8, 7, 6, 5, 4, 3, 2, 1],
        [['S', 'N']]⟩] (by decide)
  exact ⟨s, _, hs, hlength, hwalk, hagain⟩

end TruenasPydmi
