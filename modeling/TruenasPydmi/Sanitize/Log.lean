/-
  Sanitize/Log.lean --- what the sanitizer reports.

  The sanitizer shows a string as it finds it, and it reads what it has already
  written.  `Frame.entries` says what it reports about a structure in terms of the
  table it was given: the UUID, and then the strings that sensitive fields
  designate, in the order of the fields; a string that an earlier field of the
  structure designates as well is shown as the placeholder it has become.  The log
  of an accepted table consists of these entries, structure by structure
  (`sanitize_log`), and where it is empty nothing was changed.
-/
import TruenasPydmi.Sanitize.Intact

set_option autoImplicit false

namespace TruenasPydmi

open TruenasPydmi.Foundation TruenasPydmi.Python

/-! ## The entries of a structure -/

/-- The start and the length of the string that a sensitive field of the structure
designates. -/
def Frame.designated (buf : Bytes) (fr : Frame) (field : (Nat × Nat) × String) :
    Option (Nat × Nat) :=
  if field.1.1 = fr.type buf ∧ 4 + field.1.2 < fr.length then
    let stringIdx := (buf.getD (fr.start + 4 + field.1.2) 0).toNat
    if stringIdx = 0 then none else (fr.spans buf)[stringIdx - 1]?
  else none

/-- The sensitive fields that designate a string that is not empty, with where it
stands. -/
def Frame.designations (buf : Bytes) (fr : Frame) (fields : List ((Nat × Nat) × String)) :
    List (((Nat × Nat) × String) × (Nat × Nat)) :=
  fields.filterMap fun field =>
    ((fr.designated buf field).filter fun span => span.2 ≠ 0).map fun span => (field, span)

/-- The entries for these strings, where those in `seen` have already been
replaced. -/
def entriesFrom (buf : Bytes) :
    List (Nat × Nat) → List (((Nat × Nat) × String) × (Nat × Nat)) → List String
  | _, [] => []
  | seen, (field, span) :: rest =>
      let original :=
        if span ∈ seen then List.replicate span.2 'A'
        else decodeLatin1 (slice buf span.1 (span.1 + span.2))
      replacementEntry field original span.2 :: entriesFrom buf (span :: seen) rest

/-- What is reported about a structure. -/
def Frame.entries (buf : Bytes) (fr : Frame) : List String :=
  uuidEntries (fr.type buf) fr.start fr.formattedEnd ++
    entriesFrom buf [] (fr.designations buf sensitiveStringFields)

section

variable {buf cur : Bytes} {stop o o' : Nat} {fr : Frame}

theorem fieldWrite_eq_designated (buf : Bytes) (fr : Frame) (field : (Nat × Nat) × String) :
    fieldWrite buf (fr.type buf) fr.start fr.formattedEnd (fr.spans buf) field =
      (fr.designated buf field).map fun span => ⟨span.1, span.2, 65⟩ := by
  have hpresent : fr.start + 4 + field.1.2 < fr.formattedEnd ↔ 4 + field.1.2 < fr.length := by
    rw [Frame.formattedEnd]
    omega
  unfold fieldWrite Frame.designated
  simp only [hpresent]
  split
  · split
    · rfl
    · rfl
  · rfl

theorem mem_spans_of_designated {field : (Nat × Nat) × String} {span : Nat × Nat}
    (h : fr.designated buf field = some span) : span ∈ fr.spans buf := by
  unfold Frame.designated at h
  split at h
  · simp only at h
    split at h
    · simp at h
    · exact List.mem_of_getElem? h
  · simp at h

/-- The spans of a structure lie behind its formatted area. -/
theorem FrameAt.spans_bounds (hfr : FrameAt buf stop o fr o') {span : Nat × Nat}
    (h : span ∈ fr.spans buf) : fr.formattedEnd ≤ span.1 ∧ span.1 + span.2 ≤ fr.term := by
  unfold Frame.spans stringSetSpans at h
  split at h
  · simp at h
  · obtain ⟨k, hk⟩ := List.mem_iff_getElem?.mp h
    obtain ⟨hle, hle', -⟩ := hfr.fits.closes.slice_of_spans hk
    exact ⟨hle, hle'⟩

/-- The spans of a structure have no position in common. -/
theorem FrameAt.span_index_unique (hfr : FrameAt buf stop o fr o') {k k' a n a' n' j : Nat}
    (hk : (fr.spans buf)[k]? = some (a, n)) (hk' : (fr.spans buf)[k']? = some (a', n'))
    (hj : a ≤ j ∧ j < a + n) (hj' : a' ≤ j ∧ j < a' + n') : k = k' := by
  unfold Frame.spans stringSetSpans at hk hk'
  split at hk
  · simp at hk
  · rename_i hne
    rw [if_neg hne] at hk'
    exact hfr.fits.closes.spans_unique hk hk' hj hj'

theorem FrameAt.spans_apart (hfr : FrameAt buf stop o fr o') {a b : Nat × Nat} {j : Nat}
    (ha : a ∈ fr.spans buf) (hb : b ∈ fr.spans buf) (hj : a.1 ≤ j ∧ j < a.1 + a.2)
    (hj' : b.1 ≤ j ∧ j < b.1 + b.2) : a = b := by
  obtain ⟨k, hk⟩ := List.mem_iff_getElem?.mp ha
  obtain ⟨k', hk'⟩ := List.mem_iff_getElem?.mp hb
  obtain rfl := hfr.span_index_unique hk hk' hj hj'
  exact Option.some.inj (hk.symm.trans hk')

/-- The buffer in the middle of the loop over the sensitive fields: it has its index
bytes, the strings in `seen` are replaced, and the others are as they were. -/
structure InProgress (buf : Bytes) (fr : Frame) (seen : List (Nat × Nat)) (cur : Bytes) :
    Prop where
  length_eq : cur.length = buf.length
  index : ∀ field ∈ sensitiveStringFields, field.1.1 = fr.type buf → 4 + field.1.2 < fr.length →
    cur[fr.start + 4 + field.1.2]? = buf[fr.start + 4 + field.1.2]?
  replaced : ∀ span ∈ seen, ∀ j, span.1 ≤ j → j < span.1 + span.2 → cur[j]? = some 65
  other : ∀ span ∈ fr.spans buf, span ∉ seen → ∀ j, span.1 ≤ j → j < span.1 + span.2 →
    cur[j]? = buf[j]?

/-- A zeroed UUID touches none of them. -/
theorem inProgress_uuid (hfr : FrameAt buf stop o fr o') :
    InProgress buf fr [] (writeAll buf (uuidWrites (fr.type buf) fr.start fr.formattedEnd)) := by
  refine ⟨length_writeAll _ _, fun field hfield htype _ => ?_, by simp,
    fun span hspan _ j hj _ => ?_⟩
  · refine getElem?_writeAll_of_not_covers (fun w hw hcovers => ?_) _
    obtain ⟨h1, hstart, -⟩ := uuidWrites_covers hw hcovers
    have := systemField_lt field hfield (htype.trans h1)
    omega
  · exact getElem?_writeAll_uuidWrites_of_le buf ((hfr.spans_bounds hspan).1.trans hj)

/-- One more string is replaced. -/
theorem InProgress.overwrite {seen : List (Nat × Nat)} {span : Nat × Nat}
    (h : InProgress buf fr seen cur) (hfr : FrameAt buf stop o fr o')
    (hspan : span ∈ fr.spans buf) :
    InProgress buf fr (span :: seen) (overwrite cur ⟨span.1, span.2, 65⟩) := by
  obtain ⟨hle, hend⟩ := hfr.spans_bounds hspan
  have hterm := hfr.fits.closes.lt_length
  have hcovered : ∀ j, span.1 ≤ j → j < span.1 + span.2 →
      (Foundation.overwrite cur ⟨span.1, span.2, 65⟩)[j]? = some 65 := by
    intro j hj hj'
    have hlt : j < cur.length := by
      rw [h.length_eq]
      omega
    rw [getElem?_overwrite, if_pos ⟨hj, hj'⟩, List.getElem?_eq_getElem hlt, Option.map_some]
  have huncovered : ∀ j, ¬ (span.1 ≤ j ∧ j < span.1 + span.2) →
      (Foundation.overwrite cur ⟨span.1, span.2, 65⟩)[j]? = cur[j]? := by
    intro j hj
    rw [getElem?_overwrite]
    exact if_neg hj
  refine ⟨(length_overwrite _ _).trans h.length_eq, fun field hfield htype hpresent => ?_,
    fun a ha j hj hj' => ?_, fun a ha hnot j hj hj' => ?_⟩
  · rw [Frame.formattedEnd] at hle
    rw [huncovered _ (by omega), h.index field hfield htype hpresent]
  · rcases List.mem_cons.mp ha with rfl | ha
    · exact hcovered j hj hj'
    · rcases Classical.em (span.1 ≤ j ∧ j < span.1 + span.2) with hin | hout
      · exact hcovered j hin.1 hin.2
      · rw [huncovered j hout, h.replaced a ha j hj hj']
  · rw [List.mem_cons, not_or] at hnot
    rw [huncovered j fun hin => hnot.1 (hfr.spans_apart ha hspan ⟨hj, hj'⟩ hin),
      h.other a ha hnot.2 j hj hj']

/-- A string as the loop shows it. -/
theorem InProgress.original {seen : List (Nat × Nat)} {span : Nat × Nat}
    (h : InProgress buf fr seen cur) (hspan : span ∈ fr.spans buf) :
    decodeLatin1 (slice cur span.1 (span.1 + span.2)) =
      if span ∈ seen then List.replicate span.2 'A'
      else decodeLatin1 (slice buf span.1 (span.1 + span.2)) := by
  split
  · rename_i hseen
    rw [slice_eq_replicate (h.replaced span hseen), decodeLatin1, List.map_replicate]
    rfl
  · rename_i hnot
    have hagree : Agree cur span.1 buf span.1 span.2 := fun k hk =>
      h.other span hspan hnot _ (Nat.le_add_right _ _) (by omega)
    exact congrArg decodeLatin1 (hagree.slice_eq (a := 0) le_rfl)

theorem designations_cons {field : (Nat × Nat) × String} {fields : List ((Nat × Nat) × String)}
    {span : Nat × Nat} (h : fr.designated buf field = some span) (hlen : span.2 ≠ 0) :
    fr.designations buf (field :: fields) = (field, span) :: fr.designations buf fields := by
  rw [Frame.designations, List.filterMap_cons_some]
  · rfl
  · simp [h, hlen]

/-- The loop over the sensitive fields reports the strings they designate. -/
theorem allFieldEntries_eq (hfr : FrameAt buf stop o fr o')
    (fields : List ((Nat × Nat) × String))
    (hfields : ∀ field ∈ fields, field ∈ sensitiveStringFields)
    {seen : List (Nat × Nat)} (h : InProgress buf fr seen cur) :
    allFieldEntries (fr.type buf) fr.start fr.formattedEnd (fr.spans buf) cur fields =
      entriesFrom buf seen (fr.designations buf fields) := by
  induction fields generalizing cur seen with
  | nil => rfl
  | cons field fields ih =>
      rw [List.forall_mem_cons] at hfields
      have hwrite : fieldWrite cur (fr.type buf) fr.start fr.formattedEnd (fr.spans buf) field =
          (fr.designated buf field).map fun span => ⟨span.1, span.2, 65⟩ := by
        rw [← fieldWrite_eq_designated]
        refine fieldWrite_congr fun htype hpresent => ?_
        rw [Frame.formattedEnd] at hpresent
        exact h.index field hfields.1 htype (by omega)
      rw [allFieldEntries, fieldEntries, hwrite]
      cases hdesignated : fr.designated buf field with
      | none =>
          simp only [Option.map_none, List.nil_append, Option.toList_none]
          rw [show writeAll cur [] = cur from rfl, ih hfields.2 h]
          simp [Frame.designations, hdesignated]
      | some span =>
          have hspan := mem_spans_of_designated hdesignated
          simp only [Option.map_some, Option.toList_some]
          by_cases hlen : span.2 = 0
          · rw [if_pos hlen, hlen, show writeAll cur [⟨span.1, 0, 65⟩] = cur from
              overwrite_length_zero cur span.1 65, List.nil_append, ih hfields.2 h]
            simp [Frame.designations, hdesignated, hlen]
          · rw [if_neg hlen, show writeAll cur [⟨span.1, span.2, 65⟩] =
              Foundation.overwrite cur ⟨span.1, span.2, 65⟩ from rfl,
              ih hfields.2 (h.overwrite hfr hspan), h.original hspan,
              designations_cons hdesignated hlen]
            rfl

theorem structureEntries_eq (hfr : FrameAt buf stop o fr o') :
    structureEntries buf (fr.type buf) fr.start fr.formattedEnd (fr.spans buf) =
      fr.entries buf := by
  rw [structureEntries, Frame.entries,
    allFieldEntries_eq hfr sensitiveStringFields (fun _ h => h) (inProgress_uuid hfr)]

end

/-! ## The log of a table -/

/-- A pass over a structure reports its entries. -/
theorem sanitizePass_log {buf : Bytes} {o o' : Nat} {fr : Frame}
    (hfr : FrameAt buf buf.length o fr o') (log : List String) :
    sanitizePass ⟨⟨buf, log⟩, o⟩ =
      .ok (if fr.type buf = 127 then .done ⟨rewrite buf fr, log ++ fr.entries buf⟩
        else .next ⟨⟨rewrite buf fr, log ++ fr.entries buf⟩, o'⟩) := by
  rw [← structureEntries_eq hfr]
  exact sanitizePass_of_frameAt hfr log

theorem entriesFrom_congr {buf buf' : Bytes}
    {designations : List (((Nat × Nat) × String) × (Nat × Nat))}
    (h : ∀ d ∈ designations, slice buf' d.2.1 (d.2.1 + d.2.2) = slice buf d.2.1 (d.2.1 + d.2.2))
    (seen : List (Nat × Nat)) :
    entriesFrom buf' seen designations = entriesFrom buf seen designations := by
  induction designations generalizing seen with
  | nil => rfl
  | cons d designations ih =>
      obtain ⟨field, span⟩ := d
      rw [List.forall_mem_cons] at h
      simp only at h
      rw [entriesFrom, entriesFrom, h.1, ih h.2]

/-- The entries of a structure are read from its own bytes. -/
theorem Frame.entries_congr {buf buf' : Bytes} {stop o o' : Nat} {fr : Frame}
    (hfr : FrameAt buf stop o fr o') (h : ∀ j, o ≤ j → j < o' → buf'[j]? = buf[j]?) :
    fr.entries buf' = fr.entries buf := by
  have hstart := hfr.start_eq
  have hnext := hfr.next_eq
  have hfe := hfr.formattedEnd_eq
  rw [Frame.next] at hnext
  have halike : Alike buf fr buf' := by
    refine alike_of_same hfr (fun j hj hj' _ _ => h j (by omega) ?_) fun j hchar => ?_
    · rwa [Frame.next, hnext] at hj'
    · have hbounds := hchar.bounds hfr
      rw [h j (by omega) (by omega)]
      exact hbounds.2.2
  have hdesignated : ∀ field ∈ sensitiveStringFields,
      fr.designated buf' field = fr.designated buf field := by
    intro field hfield
    unfold Frame.designated
    rw [halike.type_eq, halike.spans_eq hfr]
    split
    · rename_i hpresent
      rw [List.getD_eq_getElem?_getD, List.getD_eq_getElem?_getD,
        halike.index field hfield hpresent.1 hpresent.2]
    · rfl
  have hdesignations : fr.designations buf' sensitiveStringFields =
      fr.designations buf sensitiveStringFields :=
    List.filterMap_congr fun field hfield => by rw [hdesignated field hfield]
  rw [Frame.entries, Frame.entries, halike.type_eq, hdesignations]
  congr 1
  refine entriesFrom_congr (fun d hd => ?_) []
  obtain ⟨field, -, hmap⟩ := List.mem_filterMap.mp hd
  obtain ⟨span, hspan, rfl⟩ := Option.map_eq_some_iff.mp hmap
  have hbounds := hfr.spans_bounds (mem_spans_of_designated
    (Option.eq_some_of_filter_eq_some hspan))
  have hagree : Agree buf' span.1 buf span.1 span.2 := fun k hk => h _ (by omega) (by omega)
  exact hagree.slice_eq (a := 0) le_rfl

/-- A run over an accepted table reports the entries of its structures. -/
theorem sanitizeLoop_log {buf : Bytes} {o e : Nat} {frs : List Frame}
    (h : Accepts buf buf.length o frs e) (log : List String) :
    ∃ s, sanitizeLoop.run ⟨⟨buf, log⟩, o⟩ = .ok s ∧
      s.log = log ++ frs.flatMap (Frame.entries buf) := by
  induction frs generalizing buf o log with
  | nil =>
      cases h with
      | atEnd hle =>
          refine ⟨⟨buf, log⟩, Loop.run_of_done (L := sanitizeLoop) ?_, by simp⟩
          exact if_neg (Nat.not_lt.mpr hle)
  | cons fr frs ih =>
      cases h with
      | endOfTable hfr ht =>
          have hpass := sanitizePass_log hfr log
          rw [if_pos ht] at hpass
          exact ⟨_, Loop.run_of_done (L := sanitizeLoop) hpass, by simp⟩
      | @step o o' e fr frs hfr ht ha =>
          have hpass := sanitizePass_log hfr log
          rw [if_neg ht] at hpass
          obtain ⟨-, hkeeps⟩ := rewrite_spec hfr
          -- the structures behind the first are as they were
          have he := ha.le_length hfr.le_length
          have hagree : Agree (rewrite buf fr) o' buf o' (e - o') :=
            fun k _ => hkeeps _ (Or.inr (Nat.le_add_right _ _))
          obtain ⟨ha', -⟩ := ha.congr hagree he
          rw [← length_rewrite buf fr] at ha'
          obtain ⟨s, hrun, hlog⟩ := ih ha' (log ++ fr.entries buf)
          refine ⟨s, (Loop.run_of_next (L := sanitizeLoop) hpass).trans hrun, ?_⟩
          have hentries : frs.flatMap (Frame.entries (rewrite buf fr)) =
              frs.flatMap (Frame.entries buf) := by
            refine List.flatMap_congr fun g hg => ?_
            obtain ⟨a, b, hat, hoa, -⟩ := ha.tiling.exists_at FrameAt.lt hg
            exact Frame.entries_congr hat fun j hj _ => hkeeps j (Or.inr (by omega))
          rw [hlog, hentries, List.flatMap_cons, List.append_assoc]

/-- A table for which nothing is reported holds nothing sensitive. -/
theorem not_sensitive_of_entries_eq_nil {buf : Bytes} {fr : Frame} (h : fr.entries buf = [])
    (j : Nat) : ¬ (UuidByte buf fr j ∨ SensitiveChar buf fr j) := by
  obtain ⟨huuid, hstrings⟩ := List.append_eq_nil_iff.mp h
  rintro (⟨htype, hlength, -⟩ | ⟨field, hfield, htype, hpresent, stringIdx, start, slen, hidx, hpos,
    hspan, hj, hj'⟩)
  · rw [uuidEntries, if_pos ⟨htype, by rw [Frame.formattedEnd]; omega⟩] at huuid
    simp at huuid
  · have hdesignated : fr.designated buf field = some (start, slen) := by
      rw [Frame.designated, if_pos ⟨htype, hpresent⟩]
      simp only [List.getD_eq_getElem?_getD, hidx, Option.getD_some]
      rw [if_neg (by omega), hspan]
    have hmem : (field, (start, slen)) ∈ fr.designations buf sensitiveStringFields := by
      refine List.mem_filterMap.mpr ⟨field, hfield, ?_⟩
      simp [hdesignated, show slen ≠ 0 by omega]
    cases hlist : fr.designations buf sensitiveStringFields with
    | nil => simp [hlist] at hmem
    | cons d rest =>
        rw [hlist, entriesFrom] at hstrings
        simp at hstrings

/-- The log of an accepted table consists of the entries of its structures, in order.
Where it is empty the table is unchanged. -/
theorem sanitize_log (d : Bytes) (rs : List RawStructure) (h : walkStructures d 0 = .ok rs) :
    ∃ frs e s, Accepts d d.length 0 frs e ∧ rs = frs.map (Frame.decode d) ∧
      sanitize d = .ok s ∧ s.log = frs.flatMap (Frame.entries d) ∧ (s.log = [] → s.out = d) := by
  obtain ⟨frs, e, ha, rfl⟩ := walkStructures_ok_iff.mp h
  rw [tableEnd_eq_length (Or.inl rfl)] at ha
  obtain ⟨s, hrun, hlog⟩ := sanitizeLoop_log ha []
  obtain ⟨s', hs', hlength, hall, hrest⟩ := sanitize_of_accepts ha
  obtain rfl : s = s' := Except.ok.inj (hrun.symm.trans hs')
  rw [List.nil_append] at hlog
  refine ⟨frs, e, s, ha, rfl, hrun, hlog, fun hnil => ?_⟩
  rw [hlog, List.flatMap_eq_nil_iff] at hnil
  refine List.ext_getElem? fun j => ?_
  rcases Nat.lt_or_ge j e with hj | hj
  · obtain ⟨fr, hfr, m, m', hat, hmj, hjm⟩ := ha.tiling.exists_covering (Nat.zero_le j) hj
    have hnot := not_sensitive_of_entries_eq_nil (hnil fr hfr) j
    exact (hall fr hfr).other j (by rw [hat.start_eq]; exact hmj) (by rw [hat.next_eq]; exact hjm)
      (fun huuid => hnot (Or.inl huuid)) fun hchar => hnot (Or.inr hchar)
  · exact hrest j hj

/-- A baseboard whose serial number and asset tag are one and the same string. -/
theorem sanitize_log_baseboard :
    ∃ (frs : List Frame) (s : Sanitized),
      sanitize [2, 9, 7, 0, 0, 0, 0, 1, 1, 83, 78, 0, 0] = .ok s ∧
      s.log = frs.flatMap (Frame.entries [2, 9, 7, 0, 0, 0, 0, 1, 1, 83, 78, 0, 0]) := by
  obtain ⟨frs, _, s, -, -, hs, hlog, -⟩ :=
    sanitize_log [2, 9, 7, 0, 0, 0, 0, 1, 1, 83, 78, 0, 0]
      [⟨2, 7, [0, 0, 0, 1, 1], [['S', 'N']]⟩] (by decide)
  exact ⟨frs, s, hs, hlog⟩

end TruenasPydmi
