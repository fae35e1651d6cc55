/-
  Sanitize.lean --- `tests/fixtures/dmi/_sanitize.py`.

  The sanitizer walks the structure stream with loops of its own and writes into
  the buffer it walks.  Where the walker of the parser raises, these loops are
  left early; a raised exception here is one of the built-in ones.  As in
  `Parser.lean` the outer loop is cut at the point where a structure is found to
  be complete: `sanitizeStructure` is the part behind that point.
-/
import TruenasPydmi.Foundation.Overwrite
import TruenasPydmi.Parser

set_option autoImplicit false

namespace TruenasPydmi

open TruenasPydmi.Foundation TruenasPydmi.Python

/-- `_SENSITIVE_STRING_FIELDS`, in its order: a structure type, the offset of a
string index in its formatted area, and a label. -/
def sensitiveStringFields : List ((Nat × Nat) × String) :=
  [((1, 3), "system.serial_number"),
    ((2, 3), "baseboard.serial_number"),
    ((2, 4), "baseboard.asset_tag"),
    ((3, 3), "chassis.serial_number"),
    ((3, 4), "chassis.asset_tag"),
    ((4, 28), "processor.serial_number"),
    ((4, 29), "processor.asset_tag"),
    ((17, 20), "memory_device.serial_number"),
    ((17, 21), "memory_device.asset_tag")]

/-- The index bytes of a system structure stand before its UUID. -/
theorem systemField_lt : ∀ field ∈ sensitiveStringFields, field.1.1 = 1 → field.1.2 < 4 := by
  decide

/-- The buffer that is rewritten, and the log. -/
structure Sanitized where
  out : Bytes
  log : List String
  deriving DecidableEq, Repr

/-- `for i in range(n): out[start + i] = value`. -/
def fill (out : Bytes) (start : Nat) (value : UInt8) : Nat → Except BuiltinError Bytes
  | 0 => return out
  | n + 1 => do
      let out ← fill out start value n
      setItem out (start + n) value

theorem fill_eq {out : Bytes} {start n : Nat} (value : UInt8) (h : start + n ≤ out.length) :
    fill out start value n = .ok (overwrite out ⟨start, n, value⟩) := by
  induction n with
  | zero =>
      rw [overwrite_length_zero]
      rfl
  | succ n ih =>
      have hnext : (overwrite out ⟨start, n, value⟩).set (start + n) value =
          overwrite out ⟨start, n + 1, value⟩ := by
        refine List.ext_getElem? fun j => ?_
        rw [List.getElem?_set, length_overwrite, getElem?_overwrite, getElem?_overwrite]
        by_cases hj : start + n = j
        · subst hj
          have hc : (⟨start, n + 1, value⟩ : Write UInt8).Covers (start + n) :=
            ⟨Nat.le_add_right _ _, Nat.lt_succ_self _⟩
          rw [if_pos rfl, if_pos (by omega), if_pos hc, List.getElem?_eq_getElem (by omega),
            Option.map_some]
        · have hc : (⟨start, n + 1, value⟩ : Write UInt8).Covers j ↔
              (⟨start, n, value⟩ : Write UInt8).Covers j := by
            simp only [Write.Covers]
            omega
          rw [if_neg hj]
          simp only [hc]
      rw [fill, ih (by omega), ok_bind, setItem, if_pos (by rw [length_overwrite]; omega), hnext]

/-! ## The string spans of a structure -/

/-- What the loop over a string set carries: the cursor, and the start and the
length of each string so far. -/
structure SpanState where
  cursor : Nat
  spans : List (Nat × Nat)

/-- One pass of the loop over a string set. -/
def spanPass (out : Bytes) (s : SpanState) :
    Except BuiltinError (Turn SpanState (Nat × List (Nat × Nat))) :=
  if s.cursor < out.length then
    match findFrom 0 out s.cursor with
    | none => return .done (s.cursor, s.spans)
    | some nul => do
        let spans := s.spans ++ [(s.cursor, nul - s.cursor)]
        let cursor := nul + 1
        if ← nulAt out cursor then
          return .done (cursor + 1, spans)
        else return .next { cursor := cursor, spans := spans }
  else return .done (s.cursor, s.spans)

/-- What a pass over the string set can do. -/
theorem spanPass_cases (out : Bytes) (s : SpanState) :
    (findFrom 0 out s.cursor = none ∧ spanPass out s = .ok (.done (s.cursor, s.spans))) ∨
    ∃ nul, findFrom 0 out s.cursor = some nul ∧
      ((out[nul + 1]? = some 0 ∧
          spanPass out s = .ok (.done (nul + 2, s.spans ++ [(s.cursor, nul - s.cursor)]))) ∨
        (out[nul + 1]? ≠ some 0 ∧
          spanPass out s = .ok (.next ⟨nul + 1, s.spans ++ [(s.cursor, nul - s.cursor)]⟩))) := by
  cases hfind : findFrom 0 out s.cursor with
  | none => exact Or.inl ⟨rfl, by simp [spanPass, hfind]⟩
  | some nul =>
      obtain ⟨hle, hnul⟩ := findFrom_bounds hfind
      have hlt : s.cursor < out.length := Nat.lt_of_le_of_lt hle hnul
      refine Or.inr ⟨nul, rfl, ?_⟩
      by_cases hnul : out[nul + 1]? = some 0
      · exact Or.inl ⟨hnul, by simp [spanPass, hlt, hfind, nulAt_eq, hnul]⟩
      · exact Or.inr ⟨hnul, by simp [spanPass, hlt, hfind, nulAt_eq, hnul]⟩

/-- The loop over a string set. -/
def spanLoop (out : Bytes) : Loop BuiltinError SpanState (Nat × List (Nat × Nat)) where
  body := spanPass out
  measure s := out.length - s.cursor
  decreases := by
    intro s s' h
    rcases spanPass_cases out s with ⟨-, hs⟩ | ⟨nul, hfind, ⟨-, hs⟩ | ⟨-, hs⟩⟩
    · simp [hs] at h
    · simp [hs] at h
    · obtain ⟨hle, hz, -⟩ := findFrom_eq_some_iff.mp hfind
      have hlt := (List.getElem?_eq_some_iff.mp hz).1
      rw [hs] at h
      simp only [Except.ok.injEq, Turn.next.injEq] at h
      subst h
      show out.length - (nul + 1) < out.length - s.cursor
      omega

/-- The cursor behind the string set that starts at `formattedEnd`, and the spans
of its strings. -/
def stringSpans (out : Bytes) (formattedEnd : Nat) :
    Except BuiltinError (Nat × List (Nat × Nat)) := do
  if ← doubleNulAt out formattedEnd then
    return (formattedEnd + 2, [])
  else (spanLoop out).run { cursor := formattedEnd, spans := [] }

/-! ### What the string spans are -/

/-- The spans of the strings of a set that starts at `i` and closes at `p`. -/
def stringSetSpans (buf : Bytes) (i p : Nat) : List (Nat × Nat) :=
  if p = i then [] else spans 0 buf i p

theorem spanLoop_run (out : Bytes) (s : SpanState) :
    (∀ p, Closes 0 out s.cursor p →
      (spanLoop out).run s = .ok (p + 2, s.spans ++ spans 0 out s.cursor p)) ∧
    ∃ cursor found, (spanLoop out).run s = .ok (cursor, s.spans ++ found) ∧ s.cursor ≤ cursor ∧
      ∀ span ∈ found, s.cursor ≤ span.1 ∧ span.1 + span.2 ≤ out.length := by
  refine Loop.run_rule (L := spanLoop out)
    (P := fun s r =>
      (∀ p, Closes 0 out s.cursor p → r = .ok (p + 2, s.spans ++ spans 0 out s.cursor p)) ∧
      ∃ cursor found, r = .ok (cursor, s.spans ++ found) ∧ s.cursor ≤ cursor ∧
        ∀ span ∈ found, s.cursor ≤ span.1 ∧ span.1 + span.2 ≤ out.length)
    (fun s => ?_) s
  show Loop.PassKeeps _ s (spanPass out s)
  rcases spanPass_cases out s with ⟨hfind, hs⟩ | ⟨nul, hfind, ⟨hd, hs⟩ | ⟨hd, hs⟩⟩
  · rw [hs, Loop.passKeeps_done]
    exact ⟨fun p hp => absurd hp (not_closes_of_findFrom_none hfind p),
      s.cursor, [], by simp, le_rfl, by simp⟩
  · rw [hs, Loop.passKeeps_done]
    obtain ⟨hle, hlt⟩ := findFrom_bounds hfind
    refine ⟨fun p hp => ?_, nul + 2, _, rfl, by omega, ?_⟩
    · obtain rfl := (closes_of_doubled hfind hd).unique hp
      rw [spans_of_findFrom hfind]
    · rw [List.forall_mem_singleton]
      omega
  · rw [hs, Loop.passKeeps_next]
    rintro r ⟨hcloses, cursor, found, hr, hcursor, hfound⟩
    obtain ⟨hle, hlt⟩ := findFrom_bounds hfind
    refine ⟨fun p hp => ?_, cursor, (s.cursor, nul - s.cursor) :: found, ?_, ?_, ?_⟩
    · have hp' := (closes_iff_of_not_doubled hfind hd p).mp hp
      rw [hcloses p hp', spans_of_findFrom_lt hfind hp'.le]
      simp
    · simpa using hr
    · simp only at hcursor
      omega
    · rw [List.forall_mem_cons]
      refine ⟨by omega, fun span hspan => ?_⟩
      obtain ⟨hstart, hend⟩ := hfound span hspan
      simp only at hstart
      exact ⟨by omega, hend⟩

/-- The loop over a string set ends, and finds spans behind the formatted area. -/
theorem stringSpans_bounds (out : Bytes) (i : Nat) :
    ∃ cursor found, stringSpans out i = .ok (cursor, found) ∧ i ≤ cursor ∧
      ∀ span ∈ found, i ≤ span.1 ∧ span.1 + span.2 ≤ out.length := by
  unfold stringSpans
  rw [doubleNulAt_eq, ok_bind]
  split
  · exact ⟨i + 2, [], rfl, by omega, by simp⟩
  · obtain ⟨cursor, found, hrun, hcursor, hfound⟩ := (spanLoop_run out ⟨i, []⟩).2
    exact ⟨cursor, found, hrun, hcursor, hfound⟩

/-- Where the string set closes, the spans are those of its strings. -/
theorem stringSpans_of_closes {out : Bytes} {i p : Nat} (h : Closes 0 out i p) :
    stringSpans out i = .ok (p + 2, stringSetSpans out i p) := by
  unfold stringSpans stringSetSpans
  rw [doubleNulAt_eq, ok_bind]
  by_cases hd : out[i]? = some 0 ∧ out[i + 1]? = some 0
  · obtain rfl : p = i := h.eq_start_iff.mpr hd
    simp [hd]
  · rw [if_neg (mt h.eq_start_iff.mp hd), if_neg (by simpa using hd)]
    simpa using (spanLoop_run out ⟨i, []⟩).1 p h

/-! ## Rewriting a structure -/

/-- The `if` that zeroes the UUID of a system structure. -/
def zeroUuid (type offset formattedEnd : Nat) (s : Sanitized) : Except BuiltinError Sanitized :=
  if type = 1 ∧ formattedEnd ≥ offset + 24 then do
    let out ← fill s.out (offset + 8) 0 16
    return { out := out
             log := s.log ++ ["  type=1 uuid: zeroed at offset " ++ toString (offset + 8)] }
  else return s

/-- One pass of the loop over `_SENSITIVE_STRING_FIELDS`. -/
def replaceField (type offset formattedEnd : Nat) (spans : List (Nat × Nat)) (s : Sanitized)
    (field : (Nat × Nat) × String) : Except BuiltinError Sanitized :=
  let ((stType, fmtOff), label) := field
  if stType ≠ type then return s
  else
    let idxByte := offset + 4 + fmtOff
    if idxByte ≥ formattedEnd then return s
    else do
      let stringIdx ← getItem s.out idxByte
      if stringIdx.toNat = 0 ∨ stringIdx.toNat > spans.length then return s
      else do
        let (start, slen) ← getItem spans (stringIdx.toNat - 1)
        if slen = 0 then return s
        else do
          let original := decodeLatin1 (slice s.out start (start + slen))
          let out ← fill s.out start 65 slen
          return { out := out
                   log := s.log ++
                     ["  type=" ++ toString stType ++ " " ++ label ++ ": " ++ reprString original ++
                       " -> " ++ reprString (List.replicate slen 'A')] }

/-- The loop over `_SENSITIVE_STRING_FIELDS`. -/
def replaceFields (type offset formattedEnd : Nat) (spans : List (Nat × Nat)) :
    Sanitized → List ((Nat × Nat) × String) → Except BuiltinError Sanitized
  | s, [] => return s
  | s, field :: fields => do
      let s ← replaceField type offset formattedEnd spans s field
      replaceFields type offset formattedEnd spans s fields

/-- A structure whose header and formatted area are complete: what it is rewritten
to, and where the next one starts. -/
def sanitizeStructure (type offset formattedEnd : Nat) (s : Sanitized) :
    Except BuiltinError (Sanitized × Nat) := do
  let s ← zeroUuid type offset formattedEnd s
  let (cursor, spans) ← stringSpans s.out formattedEnd
  let s ← replaceFields type offset formattedEnd spans s sensitiveStringFields
  return (s, cursor)

/-! ### What a structure is rewritten to -/

/-- The write of `zeroUuid`. -/
def uuidWrites (type offset formattedEnd : Nat) : List (Write UInt8) :=
  if type = 1 ∧ formattedEnd ≥ offset + 24 then [⟨offset + 8, 16, 0⟩] else []

/-- The write of one pass over the sensitive fields: the index is read in `buf`. -/
def fieldWrite (buf : Bytes) (type offset formattedEnd : Nat) (spans : List (Nat × Nat))
    (field : (Nat × Nat) × String) : Option (Write UInt8) :=
  if field.1.1 = type ∧ offset + 4 + field.1.2 < formattedEnd then
    let stringIdx := (buf.getD (offset + 4 + field.1.2) 0).toNat
    if stringIdx = 0 then none
    else (spans[stringIdx - 1]?).map fun span => ⟨span.1, span.2, 65⟩
  else none

/-- All writes to a structure. -/
def structureWrites (buf : Bytes) (type offset formattedEnd : Nat) (spans : List (Nat × Nat)) :
    List (Write UInt8) :=
  uuidWrites type offset formattedEnd ++
    sensitiveStringFields.filterMap (fieldWrite buf type offset formattedEnd spans)

/-! ### What is logged for a structure -/

/-- The log entry for a UUID that is zeroed. -/
def uuidEntries (type offset formattedEnd : Nat) : List String :=
  if type = 1 ∧ formattedEnd ≥ offset + 24 then
    ["  type=1 uuid: zeroed at offset " ++ toString (offset + 8)]
  else []

/-- The log entry for a string that is replaced. -/
def replacementEntry (field : (Nat × Nat) × String) (original : Str) (slen : Nat) : String :=
  "  type=" ++ toString field.1.1 ++ " " ++ field.2 ++ ": " ++ reprString original ++
    " -> " ++ reprString (List.replicate slen 'A')

/-- The log entry of one pass over the sensitive fields: the string is shown as it
stands in `buf`. -/
def fieldEntries (buf : Bytes) (type offset formattedEnd : Nat) (spans : List (Nat × Nat))
    (field : (Nat × Nat) × String) : List String :=
  match fieldWrite buf type offset formattedEnd spans field with
  | none => []
  | some w =>
      if w.length = 0 then []
      else [replacementEntry field (decodeLatin1 (slice buf w.start (w.start + w.length))) w.length]

/-- The log entries of the loop over the sensitive fields, which reads what it has
already written. -/
def allFieldEntries (type offset formattedEnd : Nat) (spans : List (Nat × Nat)) :
    Bytes → List ((Nat × Nat) × String) → List String
  | _, [] => []
  | buf, field :: fields =>
      fieldEntries buf type offset formattedEnd spans field ++
        allFieldEntries type offset formattedEnd spans
          (writeAll buf (fieldWrite buf type offset formattedEnd spans field).toList) fields

/-- The log entries for a structure. -/
def structureEntries (buf : Bytes) (type offset formattedEnd : Nat) (spans : List (Nat × Nat)) :
    List String :=
  uuidEntries type offset formattedEnd ++
    allFieldEntries type offset formattedEnd spans
      (writeAll buf (uuidWrites type offset formattedEnd)) sensitiveStringFields

theorem uuidWrites_covers {type offset formattedEnd j : Nat} {w : Write UInt8}
    (hw : w ∈ uuidWrites type offset formattedEnd) (hj : w.Covers j) :
    type = 1 ∧ offset + 8 ≤ j ∧ j < offset + 24 ∧ offset + 24 ≤ formattedEnd ∧ w.value = 0 := by
  unfold uuidWrites at hw
  split at hw
  · rename_i h
    obtain rfl : w = ⟨offset + 8, 16, 0⟩ := by simpa using hw
    have hstart : offset + 8 ≤ j := hj.1
    have hend : j < offset + 8 + 16 := hj.2
    exact ⟨h.1, hstart, by omega, h.2, rfl⟩
  · simp at hw

theorem fieldWrite_eq_some {buf : Bytes} {type offset formattedEnd : Nat}
    {spans : List (Nat × Nat)} {field : (Nat × Nat) × String} {w : Write UInt8}
    (h : fieldWrite buf type offset formattedEnd spans field = some w) :
    (w.start, w.length) ∈ spans ∧ w.value = 65 := by
  unfold fieldWrite at h
  split at h
  · simp only at h
    split at h
    · simp at h
    · obtain ⟨span, hspan, rfl⟩ := Option.map_eq_some_iff.mp h
      exact ⟨List.mem_of_getElem? hspan, rfl⟩
  · simp at h

section

variable {formattedEnd : Nat} {spans : List (Nat × Nat)} {s : Sanitized}

theorem zeroUuid_run (type offset : Nat) (hfits : formattedEnd ≤ s.out.length) :
    zeroUuid type offset formattedEnd s =
      .ok ⟨writeAll s.out (uuidWrites type offset formattedEnd),
        s.log ++ uuidEntries type offset formattedEnd⟩ := by
  unfold zeroUuid uuidWrites uuidEntries
  by_cases h : type = 1 ∧ formattedEnd ≥ offset + 24
  · rw [if_pos h, if_pos h, if_pos h, fill_eq 0 (by omega)]
    rfl
  · rw [if_neg h, if_neg h, if_neg h, List.append_nil]
    rfl

theorem replaceField_run (type offset : Nat) (hfits : formattedEnd ≤ s.out.length)
    (hspans : ∀ span ∈ spans, span.1 + span.2 ≤ s.out.length)
    (field : (Nat × Nat) × String) :
    replaceField type offset formattedEnd spans s field =
      .ok ⟨writeAll s.out (fieldWrite s.out type offset formattedEnd spans field).toList,
        s.log ++ fieldEntries s.out type offset formattedEnd spans field⟩ := by
  obtain ⟨⟨stType, fmtOff⟩, label⟩ := field
  unfold replaceField fieldEntries fieldWrite
  by_cases htype : stType = type
  · by_cases hcut : offset + 4 + fmtOff ≥ formattedEnd
    · simp only [htype, ne_eq, not_true_eq_false, if_false, if_pos hcut, true_and,
        if_neg (Nat.not_lt.mpr hcut), List.append_nil]
      rfl
    · have hget : s.out[offset + 4 + fmtOff]? = some (s.out.getD (offset + 4 + fmtOff) 0) :=
        getElem?_eq_some_getD 0 (by omega)
      simp only [htype, ne_eq, not_true_eq_false, if_false, if_neg hcut, true_and,
        if_pos (Nat.lt_of_not_ge hcut), getItem_of_getElem? hget, ok_bind]
      generalize (s.out.getD (offset + 4 + fmtOff) 0).toNat = idx
      by_cases h0 : idx = 0
      · simp [h0, writeAll]
      · cases hspan : spans[idx - 1]? with
        | none =>
            have hlt : idx > spans.length := by
              have := List.getElem?_eq_none_iff.mp hspan
              omega
            simp [h0, hlt, writeAll]
        | some span =>
            have hle := (List.getElem?_eq_some_iff.mp hspan).1
            have hend := hspans span (List.mem_of_getElem? hspan)
            rw [if_neg (by omega), getItem_of_getElem? hspan, if_neg h0]
            simp only [ok_bind, Option.map_some]
            by_cases hlen : span.2 = 0
            · rw [if_pos hlen, if_pos hlen]
              simp [hlen, writeAll, overwrite_length_zero]
            · rw [if_neg hlen, if_neg hlen, fill_eq 65 hend]
              rfl
  · simp [htype, writeAll]

/-- The writes to a structure depend on its index bytes only. -/
theorem fieldWrite_congr {type offset : Nat} {buf buf' : Bytes} {field : (Nat × Nat) × String}
    (h : field.1.1 = type → offset + 4 + field.1.2 < formattedEnd →
      buf'[offset + 4 + field.1.2]? = buf[offset + 4 + field.1.2]?) :
    fieldWrite buf' type offset formattedEnd spans field =
      fieldWrite buf type offset formattedEnd spans field := by
  unfold fieldWrite
  split
  · rename_i hfield
    rw [List.getD_eq_getElem?_getD, List.getD_eq_getElem?_getD, h hfield.1 hfield.2]
  · rfl

theorem replaceFields_run (type offset : Nat) (hfits : formattedEnd ≤ s.out.length)
    (hspans : ∀ span ∈ spans, formattedEnd ≤ span.1 ∧ span.1 + span.2 ≤ s.out.length)
    (fields : List ((Nat × Nat) × String)) :
    replaceFields type offset formattedEnd spans s fields =
      .ok ⟨writeAll s.out
          (fields.filterMap (fieldWrite s.out type offset formattedEnd spans)),
        s.log ++ allFieldEntries type offset formattedEnd spans s.out fields⟩ := by
  induction fields generalizing s with
  | nil =>
      rw [allFieldEntries, List.append_nil]
      rfl
  | cons field fields ih =>
      have hfield := replaceField_run type offset hfits
        (fun span hspan => (hspans span hspan).2) field
      -- the write to a string does not reach the index bytes of the fields to come
      have hcongr : ∀ field',
          fieldWrite (writeAll s.out
            (fieldWrite s.out type offset formattedEnd spans field).toList)
            type offset formattedEnd spans field' =
          fieldWrite s.out type offset formattedEnd spans field' := by
        intro field'
        refine fieldWrite_congr fun _ hlt => ?_
        refine getElem?_writeAll_of_not_covers (fun w hw hcovers => ?_) _
        have hmem := (fieldWrite_eq_some (Option.mem_toList.mp hw)).1
        have hstart := (hspans _ hmem).1
        have := hcovers.1
        simp only at hstart
        omega
      have hfields := ih (s := ⟨writeAll s.out
          (fieldWrite s.out type offset formattedEnd spans field).toList,
          s.log ++ fieldEntries s.out type offset formattedEnd spans field⟩)
        (by rwa [length_writeAll]) (by simpa only [length_writeAll] using hspans)
      rw [replaceFields, hfield, ok_bind, hfields]
      simp only [hcongr, allFieldEntries, List.append_assoc]
      rw [← writeAll_append]
      congr 3
      rw [List.filterMap_cons]
      cases fieldWrite s.out type offset formattedEnd spans field <;> rfl

/-- The buffer behind a zeroed UUID. -/
theorem getElem?_writeAll_uuidWrites_of_le {type offset j : Nat} (buf : Bytes)
    (hj : formattedEnd ≤ j) :
    (writeAll buf (uuidWrites type offset formattedEnd))[j]? = buf[j]? := by
  refine getElem?_writeAll_of_not_covers (fun w hw hcovers => ?_) _
  have := uuidWrites_covers hw hcovers
  omega

/-- What becomes of a structure whose formatted area is complete. -/
theorem sanitizeStructure_run (type offset : Nat) (hfits : formattedEnd ≤ s.out.length) :
    ∃ cursor found,
      stringSpans (writeAll s.out (uuidWrites type offset formattedEnd)) formattedEnd =
        .ok (cursor, found) ∧
      sanitizeStructure type offset formattedEnd s =
        .ok (⟨writeAll s.out (structureWrites s.out type offset formattedEnd found),
          s.log ++ structureEntries s.out type offset formattedEnd found⟩, cursor) := by
  have huuid := zeroUuid_run type offset hfits
  obtain ⟨cursor, found, hspans, -, hbounds⟩ :=
    stringSpans_bounds (writeAll s.out (uuidWrites type offset formattedEnd)) formattedEnd
  have hfits' :
      formattedEnd ≤ (writeAll s.out (uuidWrites type offset formattedEnd)).length := by
    rwa [length_writeAll]
  have hfields := @replaceFields_run formattedEnd found
    ⟨writeAll s.out (uuidWrites type offset formattedEnd),
      s.log ++ uuidEntries type offset formattedEnd⟩ type offset hfits' hbounds
    sensitiveStringFields
  refine ⟨cursor, found, hspans, ?_⟩
  have hwrites : sensitiveStringFields.filterMap (fieldWrite
        (writeAll s.out (uuidWrites type offset formattedEnd)) type offset formattedEnd found) =
      sensitiveStringFields.filterMap
        (fieldWrite s.out type offset formattedEnd found) := by
    refine List.filterMap_congr fun field hfield => fieldWrite_congr fun htype _ => ?_
    refine getElem?_writeAll_of_not_covers (fun w hw hcovers => ?_) _
    obtain ⟨rfl, hstart, -⟩ := uuidWrites_covers hw hcovers
    have := systemField_lt field hfield htype
    omega
  simp only [hwrites] at hfields
  rw [sanitizeStructure, huuid]
  simp only [ok_bind, hspans, hfields, structureWrites, structureEntries, writeAll_append,
    List.append_assoc, pure_eq_ok]

/-- Where the string set closes, the cursor and the spans are those of the
structure. -/
theorem stringSpans_of_closes_uuid {buf : Bytes} {type offset p cursor : Nat}
    {found : List (Nat × Nat)}
    (h : stringSpans (writeAll buf (uuidWrites type offset formattedEnd)) formattedEnd =
      .ok (cursor, found)) (hp : Closes 0 buf formattedEnd p) :
    cursor = p + 2 ∧ found = stringSetSpans buf formattedEnd p := by
  have hsep : ∀ k, formattedEnd ≤ k → k ≤ p + 1 →
      ((writeAll buf (uuidWrites type offset formattedEnd))[k]? = some 0 ↔
        buf[k]? = some 0) := fun k hk _ => by
    rw [getElem?_writeAll_uuidWrites_of_le buf hk]
  rw [stringSpans_of_closes (hp.congr hsep), Except.ok.injEq, Prod.mk.injEq] at h
  refine ⟨h.1.symm, ?_⟩
  rw [← h.2, stringSetSpans, stringSetSpans,
    hp.spans_congr fun k hk hkp => hsep k hk (by omega)]

end

/-! ## The structure stream -/

/-- What the outer loop carries. -/
structure SanitizeState where
  sanitized : Sanitized
  offset : Nat

/-- One pass of the outer loop. -/
def sanitizePass (st : SanitizeState) :
    Except BuiltinError (Turn SanitizeState Sanitized) :=
  let s := st.sanitized
  let offset := st.offset
  if offset < s.out.length then
    if offset + 4 > s.out.length then return .done s
    else do
      let (type, length, _) ← unpackFromBBH s.out offset
      if length < 4 then return .done s
      else
        let formattedEnd := offset + length
        if formattedEnd > s.out.length then return .done s
        else do
          let (s, cursor) ← sanitizeStructure type offset formattedEnd s
          if type = 127 then return .done s
          else return .next { sanitized := s, offset := cursor }
  else return .done s

/-- What a pass of the outer loop does. -/
theorem sanitizePass_run (st : SanitizeState) :
    (sanitizePass st = .ok (.done st.sanitized) ∧
      ∀ L, st.sanitized.out[st.offset + 1]? = some L → 4 ≤ L.toNat →
        st.sanitized.out.length < st.offset + L.toNat) ∨
    ∃ (L : UInt8) (cursor : Nat) (found : List (Nat × Nat)),
      st.sanitized.out[st.offset + 1]? = some L ∧ 4 ≤ L.toNat ∧
      st.offset + L.toNat ≤ st.sanitized.out.length ∧
      let type := fromLE (slice st.sanitized.out st.offset (st.offset + 1))
      let s : Sanitized := ⟨writeAll st.sanitized.out
          (structureWrites st.sanitized.out type st.offset (st.offset + L.toNat) found),
        st.sanitized.log ++
          structureEntries st.sanitized.out type st.offset (st.offset + L.toNat) found⟩
      stringSpans (writeAll st.sanitized.out
          (uuidWrites type st.offset (st.offset + L.toNat))) (st.offset + L.toNat) =
        .ok (cursor, found) ∧
      sanitizePass st = .ok (if type = 127 then .done s else .next ⟨s, cursor⟩) := by
  obtain ⟨s, offset⟩ := st
  unfold sanitizePass
  simp only
  by_cases hlt : offset < s.out.length
  · by_cases hheader : offset + 4 > s.out.length
    · exact Or.inl ⟨by simp [hheader], fun L _ hfour => by omega⟩
    · have hL : s.out[offset + 1]? = some s.out[offset + 1] := List.getElem?_eq_getElem (by omega)
      have hlength := fromLE_slice_one hL
      generalize s.out[offset + 1] = L at hL hlength
      rw [if_pos hlt, if_neg hheader, unpackFromBBH_of_le (by omega)]
      simp only [ok_bind, Nat.add_assoc, Nat.reduceAdd] at hlength ⊢
      rw [hlength]
      by_cases hfour : L.toNat < 4
      · refine Or.inl ⟨by simp [hfour], fun L' hL' hfour' => ?_⟩
        rw [hL, Option.some.injEq] at hL'
        subst hL'
        omega
      · by_cases hfits : offset + L.toNat > s.out.length
        · refine Or.inl ⟨by simp [hfits], fun L' hL' _ => ?_⟩
          rw [hL, Option.some.injEq] at hL'
          subst hL'
          exact hfits
        · obtain ⟨cursor, found, hspans, hrun⟩ :=
            sanitizeStructure_run (fromLE (slice s.out offset (offset + 1))) offset
              (Nat.le_of_not_lt hfits)
          refine Or.inr ⟨L, cursor, found, hL, by omega, by omega, hspans, ?_⟩
          rw [if_neg hfour, if_neg hfits, hrun]
          simp only [ok_bind]
          split <;> rfl
  · refine Or.inl ⟨by simp [hlt], fun L hL _ => ?_⟩
    have := (List.getElem?_eq_some_iff.mp hL).1
    omega

/-- What a pass of the outer loop can do. -/
theorem sanitizePass_cases (st : SanitizeState) :
    (sanitizePass st = .ok (.done st.sanitized) ∧
      ∀ L, st.sanitized.out[st.offset + 1]? = some L → 4 ≤ L.toNat →
        st.sanitized.out.length < st.offset + L.toNat) ∨
    ∃ (L : UInt8) (cursor : Nat) (found : List (Nat × Nat)) (log : List String),
      st.sanitized.out[st.offset + 1]? = some L ∧ 4 ≤ L.toNat ∧
      st.offset + L.toNat ≤ cursor ∧ st.offset + L.toNat ≤ st.sanitized.out.length ∧
      (∀ span ∈ found, st.offset + L.toNat ≤ span.1) ∧
      (∀ p, Closes 0 st.sanitized.out (st.offset + L.toNat) p →
        cursor = p + 2 ∧
          found = stringSetSpans st.sanitized.out (st.offset + L.toNat) p) ∧
      sanitizePass st =
        let type := fromLE (slice st.sanitized.out st.offset (st.offset + 1))
        let s : Sanitized := ⟨writeAll st.sanitized.out
          (structureWrites st.sanitized.out type st.offset (st.offset + L.toNat) found), log⟩
        .ok (if type = 127 then .done s else .next ⟨s, cursor⟩) := by
  rcases sanitizePass_run st with hdone | ⟨L, cursor, found, hL, hfour, hfits, hspans, hs⟩
  · exact Or.inl hdone
  · obtain ⟨cursor', found', hspans', hcursor, hbounds⟩ := stringSpans_bounds
      (writeAll st.sanitized.out (uuidWrites (fromLE (slice st.sanitized.out st.offset
        (st.offset + 1))) st.offset (st.offset + L.toNat))) (st.offset + L.toNat)
    obtain ⟨rfl, rfl⟩ : cursor = cursor' ∧ found = found' := by
      simpa using hspans.symm.trans hspans'
    exact Or.inr ⟨L, cursor, found, _, hL, hfour, hcursor, hfits,
      fun span hspan => (hbounds span hspan).1,
      fun p hp => stringSpans_of_closes_uuid hspans hp, hs⟩

/-- The writes to a structure do not reach what lies before it. -/
theorem getElem?_structureWrites_of_lt {buf : Bytes} {type offset L j : Nat}
    {found : List (Nat × Nat)} (hfour : 4 ≤ L) (hfound : ∀ span ∈ found, offset + L ≤ span.1)
    (hj : j < offset) :
    (writeAll buf (structureWrites buf type offset (offset + L) found))[j]? = buf[j]? := by
  refine getElem?_writeAll_of_not_covers (fun w hw hcovers => ?_) _
  rcases List.mem_append.mp hw with hw | hw
  · have := uuidWrites_covers hw hcovers
    omega
  · obtain ⟨field, -, hw⟩ := List.mem_filterMap.mp hw
    have := hfound _ (fieldWrite_eq_some hw).1
    have := hcovers.1
    omega

/-- The outer loop. -/
def sanitizeLoop : Loop BuiltinError SanitizeState Sanitized where
  body := sanitizePass
  measure st := st.sanitized.out.length - st.offset
  decreases := by
    intro st st' h
    rcases sanitizePass_cases st with
      ⟨hs, -⟩ | ⟨L, cursor, found, log, hL, hfour, hcursor, hfits, -, -, hs⟩
    · simp [hs] at h
    · rw [hs] at h
      simp only [Except.ok.injEq] at h
      split at h
      · simp at h
      · rw [Turn.next.injEq] at h
        subst h
        show (writeAll st.sanitized.out _).length - cursor < _
        rw [length_writeAll]
        omega

/-- `sanitize`. -/
def sanitize (data : Bytes) : Except BuiltinError Sanitized :=
  sanitizeLoop.run { sanitized := { out := data, log := [] }, offset := 0 }

end TruenasPydmi
