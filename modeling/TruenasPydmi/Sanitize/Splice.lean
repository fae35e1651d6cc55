/-
  Sanitize/Splice.lean --- the sanitizer on tables that stand one behind the other.

  A pass of the sanitizer looks only at what lies behind its offset, and everything
  it computes there is relative to that offset.  So behind any bytes it goes in step
  with what it does to the rest alone, well formed or not (`sanitizeLoop_append_right`);
  and a table that is accepted has been rewritten by the time the rest is reached.  A
  joined table is therefore sanitized part by part (`sanitize_append`).
-/
import TruenasPydmi.Sanitize.Intact
import TruenasPydmi.Walk.Splice

set_option autoImplicit false

namespace TruenasPydmi

open TruenasPydmi.Foundation TruenasPydmi.Python

/-! ## A structure that stands further along -/

/-- A span, so many positions further along. -/
def shiftSpan (n : Nat) (span : Nat × Nat) : Nat × Nat := (n + span.1, span.2)

section

variable (a b : Bytes)

theorem getElem?_append_add (i : Nat) : (a ++ b)[a.length + i]? = b[i]? := by
  rw [List.getElem?_append_right (Nat.le_add_right _ _), Nat.add_sub_cancel_left]

/-- What the loop over a string set carries, further along. -/
def SpanState.shift (n : Nat) (s : SpanState) : SpanState :=
  ⟨n + s.cursor, s.spans.map (shiftSpan n)⟩

/-- The loop over a string set goes in step with the one over the set alone. -/
theorem spanPass_append_right (s : SpanState) :
    Loop.PassRel (fun s s' => s' = SpanState.shift a.length s)
      (fun r r' => r' = (a.length + r.1, r.2.map (shiftSpan a.length)))
      (spanPass b s) (spanPass (a ++ b) (s.shift a.length)) := by
  have hfind := findFrom_append_right 0 a b s.cursor
  rcases spanPass_cases (a ++ b) (s.shift a.length) with ⟨hab, hs'⟩ | ⟨nul', hab, hnul'⟩
  · rw [show (s.shift a.length).cursor = a.length + s.cursor from rfl, hfind,
      Option.map_eq_none_iff] at hab
    rcases spanPass_cases b s with ⟨-, hs⟩ | ⟨nul, hb, -⟩
    · rw [hs, hs']
      exact .done rfl
    · rw [hab] at hb
      cases hb
  · rw [show (s.shift a.length).cursor = a.length + s.cursor from rfl, hfind,
      Option.map_eq_some_iff] at hab
    obtain ⟨nul, hb, rfl⟩ := hab
    rcases spanPass_cases b s with ⟨hb', -⟩ | ⟨nul', hb', hnul⟩
    · rw [hb] at hb'
      cases hb'
    · obtain rfl : nul = nul' := Option.some.inj (hb.symm.trans hb')
      have hspan : (s.shift a.length).spans ++ [((s.shift a.length).cursor,
          a.length + nul - (s.shift a.length).cursor)] =
            (s.spans ++ [(s.cursor, nul - s.cursor)]).map (shiftSpan a.length) := by
        simp [SpanState.shift, shiftSpan, Nat.add_sub_add_left]
      rw [Nat.add_assoc, getElem?_append_add] at hnul'
      rcases hnul with ⟨hd, hs⟩ | ⟨hd, hs⟩
      · rcases hnul' with ⟨-, hs'⟩ | ⟨hd', -⟩
        · rw [hs, hs', hspan]
          exact .done rfl
        · exact absurd hd hd'
      · rcases hnul' with ⟨hd', -⟩ | ⟨-, hs'⟩
        · exact absurd hd' hd
        · rw [hs, hs', hspan]
          exact .next rfl

/-- The string spans of a structure that stands further along. -/
theorem stringSpans_append_right {i cursor : Nat} {found : List (Nat × Nat)}
    (h : stringSpans b i = .ok (cursor, found)) :
    stringSpans (a ++ b) (a.length + i) =
      .ok (a.length + cursor, found.map (shiftSpan a.length)) := by
  have hdouble : doubleNulAt (a ++ b) (a.length + i) = doubleNulAt b i := by
    rw [doubleNulAt_eq, doubleNulAt_eq, Nat.add_assoc, getElem?_append_add, getElem?_append_add]
  rw [stringSpans, doubleNulAt_eq, ok_bind] at h
  rw [stringSpans, hdouble, doubleNulAt_eq, ok_bind]
  split at h
  · rename_i hd
    rw [if_pos hd, pure_eq_ok]
    rw [pure_eq_ok, Except.ok.injEq, Prod.mk.injEq] at h
    rw [← h.1, ← h.2]
    rfl
  · rename_i hd
    rw [if_neg hd]
    have hrun : Loop.OutcomeRel (fun r r' => r' = (a.length + r.1, r.2.map (shiftSpan a.length)))
        ((spanLoop b).run ⟨i, []⟩) ((spanLoop (a ++ b)).run ⟨a.length + i, []⟩) :=
      Loop.run_rel (fun s s' (hs : s' = SpanState.shift a.length s) =>
        hs ▸ spanPass_append_right a b s) rfl
    rw [h] at hrun
    obtain ⟨r, hr, rfl⟩ := hrun.exists_ok
    exact hr

/-- The type and the length byte of a structure that stands further along. -/
theorem type_append_right (o : Nat) :
    fromLE (slice (a ++ b) (a.length + o) (a.length + o + 1)) = fromLE (slice b o (o + 1)) :=
  congrArg fromLE ((agree_append_right a b o 1).slice_eq (a := 0) le_rfl)

/-- The writes to a structure that stands further along. -/
theorem uuidWrites_append_right (type offset formattedEnd : Nat) :
    uuidWrites type (a.length + offset) (a.length + formattedEnd) =
      (uuidWrites type offset formattedEnd).map (Write.shift a.length) := by
  have hiff : a.length + formattedEnd ≥ a.length + offset + 24 ↔ formattedEnd ≥ offset + 24 := by
    omega
  simp only [uuidWrites, hiff]
  split
  · simp [Write.shift, Nat.add_assoc]
  · rfl

theorem fieldWrite_append_right (type offset formattedEnd : Nat) (found : List (Nat × Nat))
    (field : (Nat × Nat) × String) :
    fieldWrite (a ++ b) type (a.length + offset) (a.length + formattedEnd)
        (found.map (shiftSpan a.length)) field =
      (fieldWrite b type offset formattedEnd found field).map (Write.shift a.length) := by
  have hidx : (a ++ b).getD (a.length + offset + 4 + field.1.2) 0 =
      b.getD (offset + 4 + field.1.2) 0 := by
    rw [List.getD_eq_getElem?_getD, List.getD_eq_getElem?_getD, Nat.add_assoc, Nat.add_assoc,
      getElem?_append_add, Nat.add_assoc]
  have hiff : a.length + offset + 4 + field.1.2 < a.length + formattedEnd ↔
      offset + 4 + field.1.2 < formattedEnd := by
    omega
  unfold fieldWrite
  simp only [hidx, hiff]
  split
  · split
    · rfl
    · rw [List.getElem?_map, Option.map_map, Option.map_map]
      rfl
  · rfl

theorem structureWrites_append_right (type offset formattedEnd : Nat) (found : List (Nat × Nat)) :
    structureWrites (a ++ b) type (a.length + offset) (a.length + formattedEnd)
        (found.map (shiftSpan a.length)) =
      (structureWrites b type offset formattedEnd found).map (Write.shift a.length) := by
  rw [structureWrites, structureWrites, List.map_append, uuidWrites_append_right,
    List.map_filterMap]
  congr 1
  exact List.filterMap_congr fun field _ => fieldWrite_append_right a b _ _ _ _ field

/-- What is sanitized is the same bytes, further along. -/
def SanitizeState.Behind (a : Bytes) (st st' : SanitizeState) : Prop :=
  st'.sanitized.out = a ++ st.sanitized.out ∧ st'.offset = a.length + st.offset

/-- A pass of the sanitizer does the same behind other bytes as it does alone. -/
theorem sanitizePass_append_right {st st' : SanitizeState} (h : st.Behind a st') :
    Loop.PassRel (SanitizeState.Behind a) (fun s s' => s'.out = a ++ s.out)
      (sanitizePass st) (sanitizePass st') := by
  obtain ⟨⟨b, log⟩, o⟩ := st
  obtain ⟨⟨out', log'⟩, offset'⟩ := st'
  obtain ⟨rfl, rfl⟩ : out' = a ++ b ∧ offset' = a.length + o := h
  have hlength : (a ++ b).length = a.length + b.length := List.length_append
  have hL : (a ++ b)[a.length + o + 1]? = b[o + 1]? := by
    rw [Nat.add_assoc, getElem?_append_add]
  rcases sanitizePass_run ⟨⟨b, log⟩, o⟩ with
    ⟨hs, hnone⟩ | ⟨L, cursor, found, hLb, hfour, hfits, hspans, hs⟩
  · rcases sanitizePass_run ⟨⟨a ++ b, log'⟩, a.length + o⟩ with
      ⟨hs', -⟩ | ⟨L, _, _, hLab, hfour, hfits, -⟩
    · rw [hs, hs']
      exact .done rfl
    · simp only at hLab hfits hnone
      rw [hL] at hLab
      have := hnone L hLab hfour
      omega
  · rcases sanitizePass_run ⟨⟨a ++ b, log'⟩, a.length + o⟩ with
      ⟨-, hnone'⟩ | ⟨L', cursor', found', hLab, -, -, hspans', hs'⟩
    · simp only at hLb hfits hnone'
      have := hnone' L (hL.trans hLb) hfour
      omega
    · simp only at hLb hLab hspans hspans' hs hs'
      obtain rfl : L = L' := Option.some.inj (hLb.symm.trans (hL.symm.trans hLab))
      rw [type_append_right, Nat.add_assoc] at hspans' hs'
      rw [uuidWrites_append_right, writeAll_append_right,
        stringSpans_append_right a _ hspans, Except.ok.injEq, Prod.mk.injEq] at hspans'
      obtain ⟨rfl, rfl⟩ := hspans'
      rw [structureWrites_append_right, writeAll_append_right] at hs'
      rw [hs, hs']
      split
      · exact .done rfl
      · exact .next ⟨rfl, rfl⟩

/-- The sanitizer goes in step with what it does alone, whatever the bytes are. -/
theorem sanitizeLoop_append_right {st st' : SanitizeState} (h : st.Behind a st') :
    Loop.OutcomeRel (fun s s' => s'.out = a ++ s.out) (sanitizeLoop.run st)
      (sanitizeLoop.run st') :=
  Loop.run_rel (R := SanitizeState.Behind a) (fun _ _ => sanitizePass_append_right a) h

end

/-! ## Passing the structures in front -/

/-- A run that reaches a position has rewritten what lies before it and nothing else. -/
theorem sanitizeLoop_reaches {buf : Bytes} {o m : Nat} {frs : List Frame}
    (h : Reaches buf buf.length o frs m) (log : List String) :
    ∃ buf' log', sanitizeLoop.run ⟨⟨buf, log⟩, o⟩ = sanitizeLoop.run ⟨⟨buf', log'⟩, m⟩ ∧
      buf'.length = buf.length ∧ (∀ j, j < o ∨ m ≤ j → buf'[j]? = buf[j]?) ∧
      ∀ fr ∈ frs, RewrittenAt buf fr buf' := by
  induction frs generalizing buf o log with
  | nil =>
      obtain rfl := Tiling.nil_iff.mp h.1
      exact ⟨buf, log, rfl, rfl, fun _ _ => rfl, by simp⟩
  | cons fr frs ih =>
      obtain ⟨htile, htype⟩ := h
      obtain ⟨k, hfr, htile⟩ := Tiling.cons_iff.mp htile
      rw [List.forall_mem_cons] at htype
      obtain ⟨hrewritten, hkeeps⟩ := rewrite_spec hfr
      have hpass := sanitizePass_of_frameAt hfr log
      simp only at hpass
      rw [if_neg htype.1] at hpass
      obtain ⟨htile', htail⟩ := rewrite_tail hfr htile
      have hok := hfr.lt
      have hkm := htile.le FrameAt.lt
      obtain ⟨buf', log'', hrun, hlength, hsame, hall⟩ := ih
        ⟨htile', fun g hg => (htail g hg).1.trans_ne (htype.2 g hg)⟩ _
      refine ⟨buf', log'', (Loop.run_of_next (L := sanitizeLoop) hpass).trans hrun,
        hlength.trans (length_rewrite buf fr), fun j hj => ?_, ?_⟩
      · rw [hsame j (by omega), hkeeps j (by omega)]
      · refine List.forall_mem_cons.mpr ⟨?_, fun g hg => (htail g hg).2 _ (hall g hg)⟩
        refine hrewritten.of_eq hfr fun j _ hj => hsame j ?_
        rw [hfr.next_eq] at hj
        exact Or.inl hj

/-- Rewritten structures are the same in two tables that both begin with them. -/
theorem eq_of_rewritten {a b out out' : Bytes} {stop e : Nat} {frs : List Frame}
    (htile : Tiling (FrameAt a stop) 0 frs e) (h : ∀ fr ∈ frs, RewrittenAt a fr out)
    (h' : ∀ fr ∈ frs, RewrittenAt (a ++ b) fr out') {j : Nat} (hj : j < e) :
    out'[j]? = out[j]? := by
  obtain ⟨fr, hfr, m, m', hat, hmj, hjm⟩ := htile.exists_covering (Nat.zero_le j) hj
  have hstart := hat.start_eq
  have hnext := hat.next_eq
  have hle := hat.le_length
  have hsame : ∀ k, fr.start ≤ k → k < fr.next → (a ++ b)[k]? = a[k]? :=
    fun k _ hk => List.getElem?_append_left (by omega)
  exact (h' fr hfr).unique ((h fr hfr).congr_of_eq hat hsame) (by omega) (by omega)

/-! ## Two tables -/

section

variable {a : Bytes} {frs : List Frame} {e : Nat}

/-- Bytes that are one part up to a length and another from there on. -/
theorem eq_append_of_getElem? {out front rest : Bytes}
    (hfront : ∀ j < front.length, out[j]? = front[j]?)
    (hback : ∀ j, out[front.length + j]? = rest[j]?) : out = front ++ rest := by
  refine List.ext_getElem? fun j => ?_
  rcases Nat.lt_or_ge j front.length with hj | hj
  · rw [List.getElem?_append_left hj, hfront j hj]
  · rw [List.getElem?_append_right hj, ← hback, Nat.add_sub_cancel' hj]

/-- A table is the same bytes with another one behind it. -/
theorem agree_append_left (a b : Bytes) {n : Nat} (hn : n ≤ a.length) :
    Agree (a ++ b) 0 a 0 (n - 0) := by
  intro k hk
  rw [Nat.zero_add, List.getElem?_append_left (by omega)]

/-- Behind structures that are all passed, the rest is sanitized as it is alone. -/
theorem sanitize_append_of_reaches (hr : Reaches a a.length 0 frs a.length) (b : Bytes) :
    ∃ sa sb s, sanitize a = .ok sa ∧ sanitize b = .ok sb ∧ sanitize (a ++ b) = .ok s ∧
      s.out = sa.out ++ sb.out := by
  have ha : Accepts a a.length 0 frs a.length := by
    simpa using hr.accepts (.atEnd le_rfl)
  obtain ⟨sa, hsa, hlength, hall, -⟩ := sanitize_of_accepts ha
  obtain ⟨sb, hsb, -⟩ := sanitizeLoop_keeps ⟨⟨b, []⟩, 0⟩
  have hle : a.length ≤ (a ++ b).length := by simp
  obtain ⟨hr', -⟩ := hr.congr (agree_append_left a b le_rfl) hle
  obtain ⟨buf', log', hrun, -, hsame, hall'⟩ := sanitizeLoop_reaches hr' []
  have hbuf : buf' = sa.out ++ b := by
    refine eq_append_of_getElem? (fun j hj => ?_) fun j => ?_
    · exact eq_of_rewritten hr.1 hall hall' (hlength ▸ hj)
    · rw [hlength, hsame _ (Or.inr (Nat.le_add_right _ _)), getElem?_append_add]
  -- from here on the run is the run over the rest, further along
  have hbehind : SanitizeState.Behind sa.out ⟨⟨b, []⟩, 0⟩ ⟨⟨buf', log'⟩, a.length⟩ :=
    ⟨hbuf, hlength.symm⟩
  have hstep := sanitizeLoop_append_right sa.out hbehind
  rw [hsb, ← hrun] at hstep
  obtain ⟨s, hs, hout⟩ := hstep.exists_ok
  exact ⟨sa, sb, s, hsa, hsb, hs, hout⟩

/-- Behind an End-of-Table nothing is touched. -/
theorem sanitize_append_of_endOfTable (ha : Accepts a a.length 0 frs e)
    (hlast : ∃ fr, frs.getLast? = some fr ∧ fr.type a = 127) (b : Bytes) :
    ∃ sa s, sanitize a = .ok sa ∧ sanitize (a ++ b) = .ok s ∧ s.out = sa.out ++ b := by
  obtain ⟨sa, hsa, hlength, hall, hrest⟩ := sanitize_of_accepts ha
  have he := ha.le_length (Nat.zero_le _)
  have hle : e ≤ (a ++ b).length := he.trans (by simp)
  obtain ⟨htile, htype, -⟩ := accepts_iff_tiling.mp ha
  obtain ⟨htile', hdecode⟩ := tiling_congr htile (agree_append_left a b he) hle
  have htype_eq : ∀ fr ∈ frs, fr.type (a ++ b) = fr.type a :=
    fun fr hfr => congrArg RawStructure.type (hdecode fr hfr)
  have hab : Accepts (a ++ b) (a ++ b).length 0 frs e := by
    refine accepts_iff_tiling.mpr ⟨htile', fun fr hfr => ?_, Or.inl ?_⟩
    · rw [htype_eq fr (List.dropLast_subset _ hfr)]
      exact htype fr hfr
    · obtain ⟨fr, hfr, ht⟩ := hlast
      exact ⟨fr, hfr, (htype_eq fr (List.mem_of_getLast? hfr)).trans ht⟩
  obtain ⟨s, hs, -, hall', hrest'⟩ := sanitize_of_accepts hab
  refine ⟨sa, s, hsa, hs, eq_append_of_getElem? (fun j hj => ?_) fun j => ?_⟩
  · rw [hlength] at hj
    rcases Nat.lt_or_ge j e with hje | hje
    · exact eq_of_rewritten htile hall hall' hje
    · rw [hrest' j hje, hrest j hje, List.getElem?_append_left hj]
  · rw [hlength, hrest' _ (he.trans (Nat.le_add_right _ _)), getElem?_append_add]

end

/-- A table behind another is sanitized as it is alone, well formed or not, unless an
End-of-Table stands before it; then it is not touched. -/
theorem sanitize_append (a b : Bytes) (ra : List RawStructure)
    (h : walkStructures a 0 = .ok ra) :
    ∃ sa sb s, sanitize a = .ok sa ∧ sanitize b = .ok sb ∧ sanitize (a ++ b) = .ok s ∧
      ((∀ r ∈ ra, r.type ≠ 127) → s.out = sa.out ++ sb.out) ∧
      ((∃ r, ra.getLast? = some r ∧ r.type = 127) → s.out = sa.out ++ b) := by
  obtain ⟨sa, hsa, -⟩ := sanitizeLoop_keeps ⟨⟨a, []⟩, 0⟩
  obtain ⟨sb, hsb, -⟩ := sanitizeLoop_keeps ⟨⟨b, []⟩, 0⟩
  obtain ⟨s, hs, -⟩ := sanitizeLoop_keeps ⟨⟨a ++ b, []⟩, 0⟩
  refine ⟨sa, sb, s, hsa, hsb, hs, fun ht => ?_, fun hlast => ?_⟩
  · obtain ⟨frs, hr, -⟩ := exists_reaches_of_walk h ht
    obtain ⟨sa', sb', s', hsa', hsb', hs', hout⟩ := sanitize_append_of_reaches hr b
    obtain rfl := Except.ok.inj (hsa.symm.trans hsa')
    obtain rfl := Except.ok.inj (hsb.symm.trans hsb')
    obtain rfl := Except.ok.inj (hs.symm.trans hs')
    exact hout
  · obtain ⟨frs, e, ha, rfl⟩ := walkStructures_ok_iff.mp h
    rw [tableEnd_eq_length (Or.inl rfl)] at ha
    have hlast' : ∃ fr, frs.getLast? = some fr ∧ fr.type a = 127 := by
      obtain ⟨r, hr, ht⟩ := hlast
      rw [List.getLast?_map, Option.map_eq_some_iff] at hr
      obtain ⟨fr, hfr, rfl⟩ := hr
      exact ⟨fr, hfr, ht⟩
    obtain ⟨sa', s', hsa', hs', hout⟩ := sanitize_append_of_endOfTable ha hlast' b
    obtain rfl := Except.ok.inj (hsa.symm.trans hsa')
    obtain rfl := Except.ok.inj (hs.symm.trans hs')
    exact hout

/-- A baseboard with a serial number and a byte too many, behind a chassis and behind
an End-of-Table. -/
theorem sanitize_append_chassis :
    (∃ s, sanitize [3, 4, 9, 0, 0, 0, 2, 8, 7, 0, 0, 0, 0, 1, 83, 78, 0, 0, 5] = .ok s ∧
      s.out = [3, 4, 9, 0, 0, 0, 2, 8, 7, 0, 0, 0, 0, 1, 65, 65, 0, 0, 5]) ∧
    ∃ s, sanitize [127, 4, 9, 0, 0, 0, 2, 8, 7, 0, 0, 0, 0, 1, 83, 78, 0, 0, 5] = .ok s ∧
      s.out = [127, 4, 9, 0, 0, 0, 2, 8, 7, 0, 0, 0, 0, 1, 83, 78, 0, 0, 5] := by
  let b : Bytes := [2, 8, 7, 0, 0, 0, 0, 1, 83, 78, 0, 0, 5]
  have hb : (sanitize b).map Sanitized.out = .ok [2, 8, 7, 0, 0, 0, 0, 1, 65, 65, 0, 0, 5] := rfl
  constructor
  · obtain ⟨sa, sb, s, hsa, hsb, hs, hout, -⟩ :=
      sanitize_append [3, 4, 9, 0, 0, 0] b [⟨3, 9, [], []⟩] (by decide)
    obtain rfl : ⟨[3, 4, 9, 0, 0, 0], []⟩ = sa := Except.ok.inj hsa
    rw [hsb] at hb
    exact ⟨s, hs, (hout (by simp)).trans (congrArg _ (Except.ok.inj hb))⟩
  · obtain ⟨sa, -, s, hsa, -, hs, -, hout⟩ :=
      sanitize_append [127, 4, 9, 0, 0, 0] b [⟨127, 9, [], []⟩] (by decide)
    obtain rfl : ⟨[127, 4, 9, 0, 0, 0], []⟩ = sa := Except.ok.inj hsa
    exact ⟨s, hs, hout ⟨_, rfl, rfl⟩⟩

end TruenasPydmi
