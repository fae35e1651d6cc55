/-
  Sanitize/Visits.lean --- where the sanitizer writes, whatever the bytes are.

  The sanitizer takes one position after another for the start of a structure, and
  goes on behind the strings it finds there (`Visits`).  A pass writes behind its own
  header and in front of the position it goes on to, so the passes to come find the
  bytes they were given: which positions are visited, and what is overwritten there,
  can be read off the original data.  With that the output is known byte by byte,
  well formed or not (`sanitize_overwrites`).
-/
import Mathlib.Logic.Relation
import TruenasPydmi.Sanitize.Run

set_option autoImplicit false

namespace TruenasPydmi

open TruenasPydmi.Foundation TruenasPydmi.Python

/-! ## The strings of a span -/

/-- The span is a string with its NUL, in front of the cursor. -/
structure StringBefore (buf : Bytes) (cursor : Nat) (span : Nat × Nat) : Prop where
  lt : span.1 + span.2 < cursor
  nulFree : ∀ j, span.1 ≤ j → j < span.1 + span.2 → buf[j]? ≠ some 0
  nul : buf[span.1 + span.2]? = some 0

section

variable {buf buf' : Bytes} {i cursor : Nat} {found : List (Nat × Nat)}

/-- The span in front of the NUL that a search finds. -/
theorem stringBefore_of_findFrom {n : Nat} (h : findFrom 0 buf i = some n) (hn : n < cursor) :
    StringBefore buf cursor (i, n - i) := by
  obtain ⟨hin, hnul, hfirst⟩ := findFrom_eq_some_iff.mp h
  have hend : i + (n - i) = n := Nat.add_sub_cancel' hin
  refine ⟨?_, fun j hj hj' => hfirst j hj ?_, ?_⟩
  · rwa [hend]
  · rwa [hend] at hj'
  · rwa [hend]

theorem spanLoop_strings (s : SpanState) (h : ∀ span ∈ s.spans, StringBefore buf s.cursor span) :
    ∃ result, (spanLoop buf).run s = .ok result ∧
      ∀ span ∈ result.2, StringBefore buf result.1 span := by
  refine Loop.run_rule_of (L := spanLoop buf)
    (I := fun s => ∀ span ∈ s.spans, StringBefore buf s.cursor span)
    (P := fun _ r => ∃ result, r = .ok result ∧ ∀ span ∈ result.2, StringBefore buf result.1 span)
    (fun s h => ?_) h
  show Loop.PassKeeps _ s (spanPass buf s)
  have hon : ∀ {n c : Nat}, findFrom 0 buf s.cursor = some n → n < c →
      ∀ span ∈ s.spans ++ [(s.cursor, n - s.cursor)], StringBefore buf c span := by
    intro n c hfind hn
    have hle := (findFrom_eq_some_iff.mp hfind).1
    refine List.forall_mem_append.mpr ⟨fun span hspan => ?_, ?_⟩
    · exact ⟨by have := (h span hspan).lt; omega, (h span hspan).nulFree, (h span hspan).nul⟩
    · exact List.forall_mem_singleton.mpr (stringBefore_of_findFrom hfind hn)
  rcases spanPass_cases buf s with ⟨-, hs⟩ | ⟨nul, hfind, ⟨-, hs⟩ | ⟨-, hs⟩⟩
  · rw [hs, Loop.passKeeps_done]
    exact fun _ => ⟨_, rfl, h⟩
  · rw [hs, Loop.passKeeps_done]
    exact fun _ => ⟨_, rfl, hon hfind (by omega)⟩
  · rw [hs, Loop.passKeeps_next]
    exact fun r hr _ => hr (hon hfind (Nat.lt_succ_self nul))

/-- What is found is strings, whether the string set closes or not. -/
theorem stringSpans_strings (h : stringSpans buf i = .ok (cursor, found)) :
    ∀ span ∈ found, StringBefore buf cursor span := by
  rw [stringSpans, doubleNulAt_eq, ok_bind] at h
  split at h
  · obtain ⟨-, rfl⟩ : i + 2 = cursor ∧ [] = found := by simpa using h
    simp
  · obtain ⟨result, hrun, hall⟩ :=
      spanLoop_strings ⟨i, []⟩ (fun span hspan => absurd hspan List.not_mem_nil)
    obtain rfl : result = (cursor, found) := Except.ok.inj (hrun.symm.trans h)
    exact hall

/-- The strings depend on the bytes behind the formatted area only. -/
theorem stringSpans_congr (h : ∀ j, i ≤ j → buf'[j]? = buf[j]?) :
    stringSpans buf' i = stringSpans buf i := by
  have hfind : ∀ c, i ≤ c → findFrom 0 buf' c = findFrom 0 buf c := by
    intro c hc
    cases hfound : findFrom 0 buf c with
    | none =>
        rw [findFrom_eq_none_iff] at hfound ⊢
        exact fun m hm => (h m (by omega)).trans_ne (hfound m hm)
    | some n => exact findFrom_congr hfound fun k hk _ => by rw [h k (by omega)]
  have hpass : ∀ s : SpanState, i ≤ s.cursor → Loop.PassRel (fun s s' => s' = s ∧ i ≤ s.cursor) Eq
      (spanPass buf s) (spanPass buf' s) := by
    intro s hs
    rcases spanPass_cases buf s with ⟨hn, hp⟩ | ⟨nul, hn, hp⟩
    · rcases spanPass_cases buf' s with ⟨-, hp'⟩ | ⟨nul', hn', -⟩
      · rw [hp, hp']
        exact .done rfl
      · rw [hfind _ hs, hn] at hn'
        cases hn'
    · have hle := (findFrom_eq_some_iff.mp hn).1
      rcases spanPass_cases buf' s with ⟨hn', -⟩ | ⟨nul', hn', hp'⟩
      · rw [hfind _ hs, hn] at hn'
        cases hn'
      · obtain rfl : nul = nul' := by
          rw [hfind _ hs, hn] at hn'
          exact Option.some.inj hn'
        rw [h _ (by omega)] at hp'
        rcases hp with ⟨hd, hp⟩ | ⟨hd, hp⟩
        · rw [hp, (hp'.resolve_right fun hne => hne.1 hd).2]
          exact .done rfl
        · rw [hp, (hp'.resolve_left fun heq => hd heq.1).2]
          exact .next ⟨rfl, by simp only; omega⟩
  rw [stringSpans, stringSpans, doubleNulAt_eq, doubleNulAt_eq, h i le_rfl, h (i + 1) (by omega),
    ok_bind, ok_bind]
  split
  · rfl
  · have hrun : Loop.OutcomeRel Eq ((spanLoop buf).run ⟨i, []⟩) ((spanLoop buf').run ⟨i, []⟩) := by
      refine Loop.run_rel (R := fun s s' => s' = s ∧ i ≤ s.cursor) ?_ ⟨rfl, le_rfl⟩
      rintro _ _ ⟨rfl, hs⟩
      exact hpass _ hs
    obtain ⟨result, hresult⟩ : ∃ result, (spanLoop buf).run ⟨i, []⟩ = .ok result := by
      obtain ⟨cursor, found, hr, -⟩ := (spanLoop_run buf ⟨i, []⟩).2
      exact ⟨_, hr⟩
    rw [hresult] at hrun ⊢
    obtain ⟨result', hresult', rfl⟩ := hrun.exists_ok
    exact hresult'

end

/-! ## What the sanitizer takes for structures -/

/-- The type byte of what starts at `o`. -/
def typeAt (d : Bytes) (o : Nat) : Nat := fromLE (slice d o (o + 1))

/-- The sanitizer takes what starts at `o` for a structure of `L` bytes with these
strings, and the cursor comes to stand behind them. -/
structure TakenAt (d : Bytes) (o L cursor : Nat) (found : List (Nat × Nat)) : Prop where
  lengthByte : (d[o + 1]?).map UInt8.toNat = some L
  four_le : 4 ≤ L
  fits : o + L ≤ d.length
  spans : stringSpans d (o + L) = .ok (cursor, found)

/-- The sanitizer goes on from `o` to `o'`. -/
def GoesOn (d : Bytes) (o o' : Nat) : Prop :=
  typeAt d o ≠ 127 ∧ ∃ L found, TakenAt d o L o' found

/-- From `o` the sanitizer comes to `o'`. -/
def Visits (d : Bytes) : Nat → Nat → Prop := Relation.ReflTransGen (GoesOn d)

/-- What starts at `o` is taken for a system structure that holds a UUID. -/
def HasUuid (d : Bytes) (o : Nat) : Prop :=
  typeAt d o = 1 ∧ ∃ L cursor found, TakenAt d o L cursor found ∧ 24 ≤ L

/-- The position belongs to the UUID of what is taken for a system structure at `o`. -/
def InUuid (d : Bytes) (o j : Nat) : Prop :=
  HasUuid d o ∧ o + 8 ≤ j ∧ j < o + 24

/-- The position belongs to a string that an index byte of what is taken for a
structure at `o` designates, as a serial number or an asset tag. -/
def InSensitiveString (d : Bytes) (o j : Nat) : Prop :=
  ∃ L cursor found, TakenAt d o L cursor found ∧
    ∃ field ∈ sensitiveStringFields, field.1.1 = typeAt d o ∧ 4 + field.1.2 < L ∧
      ∃ (stringIdx : UInt8) (start slen : Nat), d[o + 4 + field.1.2]? = some stringIdx ∧
        1 ≤ stringIdx.toNat ∧ found[stringIdx.toNat - 1]? = some (start, slen) ∧
        start ≤ j ∧ j < start + slen

/-- What starts at `o` makes the sanitizer write `v` at the position. -/
def Overwrites (d : Bytes) (o j : Nat) (v : UInt8) : Prop :=
  InUuid d o j ∧ v = 0 ∨ InSensitiveString d o j ∧ v = 65

section

variable {d buf : Bytes} {o o' L cursor j : Nat} {found : List (Nat × Nat)} {v : UInt8}

theorem TakenAt.le_cursor (h : TakenAt d o L cursor found) : o + L ≤ cursor := by
  obtain ⟨_, _, hspans, hle, -⟩ := stringSpans_bounds d (o + L)
  obtain ⟨rfl, -⟩ := Prod.mk.inj (Except.ok.inj (h.spans.symm.trans hspans))
  exact hle

theorem TakenAt.unique {L' cursor' : Nat} {found' : List (Nat × Nat)}
    (h : TakenAt d o L cursor found) (h' : TakenAt d o L' cursor' found') :
    L = L' ∧ cursor = cursor' ∧ found = found' := by
  obtain rfl : L = L' := Option.some.inj (h.lengthByte.symm.trans h'.lengthByte)
  obtain ⟨rfl, rfl⟩ := Prod.mk.inj (Except.ok.inj (h.spans.symm.trans h'.spans))
  exact ⟨rfl, rfl, rfl⟩

theorem TakenAt.le_span (h : TakenAt d o L cursor found) {span : Nat × Nat}
    (hspan : span ∈ found) : o + L ≤ span.1 := by
  obtain ⟨_, _, hspans, -, hall⟩ := stringSpans_bounds d (o + L)
  obtain ⟨-, rfl⟩ := Prod.mk.inj (Except.ok.inj (h.spans.symm.trans hspans))
  exact (hall span hspan).1

theorem GoesOn.lt (h : GoesOn d o o') : o < o' := by
  obtain ⟨-, L, found, htaken⟩ := h
  have := htaken.le_cursor
  have := htaken.four_le
  omega

theorem Visits.le (h : Visits d o o') : o ≤ o' := by
  induction h with
  | refl => exact le_rfl
  | tail _ hgo ih => exact ih.trans (Nat.le_of_lt hgo.lt)

/-- The positions visited stand in one line. -/
theorem Visits.total {o₁ o₂ : Nat} (h₁ : Visits d o o₁) (h₂ : Visits d o o₂) :
    Visits d o₁ o₂ ∨ Visits d o₂ o₁ := by
  refine Relation.ReflTransGen.total_of_right_unique ?_ h₁ h₂
  rintro a b c ⟨-, L, found, hb⟩ ⟨-, L', found', hc⟩
  exact (hb.unique hc).2.1

/-- A write stands behind the header and in front of where the sanitizer goes on; in
the formatted area it is a zero, behind it an `A` in the place of a character. -/
theorem Overwrites.bounds (h : Overwrites d o j v) (htaken : TakenAt d o L cursor found) :
    o + 4 ≤ j ∧ j < cursor ∧ (j < o + L → InUuid d o j ∧ v = 0) ∧
      (o + L ≤ j → v = 65 ∧ d[j]? ≠ some 0) := by
  have hfour := htaken.four_le
  have hcursor := htaken.le_cursor
  rcases h with ⟨⟨⟨htype, L', _, _, htaken', hL⟩, hj, hj'⟩, rfl⟩ |
    ⟨⟨L', _, _, htaken', field, hfield, htype, hpresent, stringIdx, start, slen, hidx, hpos, hspan,
      hj, hj'⟩, rfl⟩
  · obtain ⟨rfl, rfl, rfl⟩ := htaken.unique htaken'
    exact ⟨by omega, by omega,
      fun _ => ⟨⟨⟨htype, _, _, _, htaken, hL⟩, hj, hj'⟩, rfl⟩, fun hle => by omega⟩
  · obtain ⟨rfl, rfl, rfl⟩ := htaken.unique htaken'
    have hmem := List.mem_of_getElem? hspan
    have hle : o + L ≤ start := htaken.le_span hmem
    have hstring := stringSpans_strings htaken.spans _ hmem
    have hlt : start + slen < cursor := hstring.lt
    exact ⟨by omega, by omega, fun hlt => by omega, fun _ => ⟨rfl, hstring.nulFree j hj hj'⟩⟩

/-- Behind a position that is visited the next one is the one it goes on to. -/
theorem Visits.next_le {s : Nat} (hs : Visits d 0 s) (htaken : TakenAt d s L cursor found)
    (h : Visits d 0 o) (hlt : s < o) : typeAt d s ≠ 127 ∧ cursor ≤ o := by
  have hso : Visits d s o := (hs.total h).resolve_right fun hos =>
    absurd hos.le (Nat.not_le.mpr hlt)
  rcases Relation.ReflTransGen.cases_head hso with rfl | ⟨e, ⟨ht, _, _, htaken'⟩, heo⟩
  · exact absurd hlt (Nat.lt_irrefl s)
  · obtain ⟨-, rfl, -⟩ := htaken.unique htaken'
    exact ⟨ht, Visits.le heo⟩

theorem Overwrites.taken (h : Overwrites d o j v) :
    ∃ L cursor found, TakenAt d o L cursor found := by
  rcases h with ⟨⟨⟨-, L, cursor, found, htaken, -⟩, -⟩, -⟩ | ⟨⟨L, cursor, found, htaken, -⟩, -⟩
  · exact ⟨L, cursor, found, htaken⟩
  · exact ⟨L, cursor, found, htaken⟩

theorem Overwrites.lt_length (h : Overwrites d o j v) : j < d.length := by
  rcases h with ⟨⟨⟨-, L, _, _, htaken, hL⟩, -, hj⟩, -⟩ |
    ⟨⟨_, _, _, htaken, _, _, _, _, _, start, slen, _, _, hspan, _, hj⟩, -⟩
  · have := htaken.fits
    omega
  · have hstring := stringSpans_strings htaken.spans _ (List.mem_of_getElem? hspan)
    have hlt : start + slen < d.length := (List.getElem?_eq_some_iff.mp hstring.nul).1
    omega

theorem Overwrites.unique {v' : UInt8} (h : Overwrites d o j v) (h' : Overwrites d o j v') :
    v = v' := by
  obtain ⟨L, cursor, found, htaken⟩ := h.taken
  obtain ⟨-, -, huuid, hchar⟩ := h.bounds htaken
  obtain ⟨-, -, huuid', hchar'⟩ := h'.bounds htaken
  rcases Nat.lt_or_ge j (o + L) with hj | hj
  · rw [(huuid hj).2, (huuid' hj).2]
  · rw [(hchar hj).1, (hchar' hj).1]

/-- The writes of the sanitizer are the ones named. -/
theorem TakenAt.covers_iff (h : TakenAt d o L cursor found) :
    (∃ w ∈ structureWrites d (typeAt d o) o (o + L) found, w.Covers j ∧ w.value = v) ↔
      Overwrites d o j v := by
  have hfits := h.fits
  constructor
  · rintro ⟨w, hw, hcovers, rfl⟩
    rcases List.mem_append.mp hw with hw | hw
    · obtain ⟨htype, hj, hj', hlength, hvalue⟩ := uuidWrites_covers hw hcovers
      exact Or.inl ⟨⟨⟨htype, L, cursor, found, h, by omega⟩, hj, hj'⟩, hvalue⟩
    · obtain ⟨field, hfield, hw⟩ := List.mem_filterMap.mp hw
      refine Or.inr ⟨⟨L, cursor, found, h, field, hfield, ?_⟩, (fieldWrite_eq_some hw).2⟩
      unfold fieldWrite at hw
      split at hw
      · rename_i hpresent
        have hidx : d[o + 4 + field.1.2]? = some (d.getD (o + 4 + field.1.2) 0) :=
          getElem?_eq_some_getD 0 (by omega)
        simp only at hw
        split at hw
        · simp at hw
        · obtain ⟨span, hspan, rfl⟩ := Option.map_eq_some_iff.mp hw
          exact ⟨hpresent.1, by omega, _, span.1, span.2, hidx, by omega, hspan, hcovers⟩
      · simp at hw
  · rintro (⟨⟨⟨htype, L', _, _, htaken, hL⟩, hj, hj'⟩, rfl⟩ |
      ⟨⟨L', _, _, htaken, field, hfield, htype, hpresent, stringIdx, start, slen, hidx, hpos, hspan,
        hj⟩, rfl⟩)
    · obtain ⟨rfl, -, -⟩ := h.unique htaken
      refine ⟨⟨o + 8, 16, 0⟩, List.mem_append_left _ ?_, ⟨hj, by simp only; omega⟩, rfl⟩
      rw [uuidWrites, if_pos ⟨htype, by omega⟩]
      exact List.mem_singleton_self _
    · obtain ⟨rfl, rfl, rfl⟩ := h.unique htaken
      refine ⟨⟨start, slen, 65⟩,
        List.mem_append_right _ (List.mem_filterMap.mpr ⟨field, hfield, ?_⟩), hj, rfl⟩
      rw [fieldWrite, if_pos ⟨htype, by omega⟩]
      simp only [List.getD_eq_getElem?_getD, hidx, Option.getD_some]
      rw [if_neg (by omega), hspan]
      rfl

end

/-! ## The run -/

/-- `out` is `buf` with what the positions visited from `o` on overwrite. -/
def OverwrittenFrom (d : Bytes) (o : Nat) (buf out : Bytes) : Prop :=
  ∀ j, (∀ o' v, Visits d o o' → Overwrites d o' j v → out[j]? = some v) ∧
    ((∀ o' v, Visits d o o' → ¬ Overwrites d o' j v) → out[j]? = buf[j]?)

section

variable {d buf : Bytes} {o : Nat}

/-- What a pass does is read off the original bytes, as long as it has these before
it. -/
theorem sanitizePass_of_agree (hlength : buf.length = d.length)
    (hagree : ∀ j, o ≤ j → buf[j]? = d[j]?) (log : List String) :
    (sanitizePass ⟨⟨buf, log⟩, o⟩ = .ok (.done ⟨buf, log⟩) ∧
      ∀ L cursor found, ¬ TakenAt d o L cursor found) ∨
    ∃ L cursor found log', TakenAt d o L cursor found ∧
      let out := writeAll buf (structureWrites d (typeAt d o) o (o + L) found)
      sanitizePass ⟨⟨buf, log⟩, o⟩ =
        .ok (if typeAt d o = 127 then .done ⟨out, log'⟩ else .next ⟨⟨out, log'⟩, cursor⟩) := by
  have htype : fromLE (slice buf o (o + 1)) = typeAt d o := by
    have hsame : Agree buf o d o 1 := fun k _ => hagree _ (Nat.le_add_right _ _)
    exact congrArg fromLE (hsame.slice_eq (a := 0) le_rfl)
  rcases sanitizePass_run ⟨⟨buf, log⟩, o⟩ with
    ⟨hs, hnone⟩ | ⟨L, cursor, found, hL, hfour, hfits, hspans, hs⟩
  · refine Or.inl ⟨hs, fun L cursor found htaken => ?_⟩
    obtain ⟨b, hb, rfl⟩ := Option.map_eq_some_iff.mp htaken.lengthByte
    have hlt := hnone b ((hagree _ (Nat.le_succ o)).trans hb) htaken.four_le
    have := htaken.fits
    simp only at hlt
    omega
  · simp only at hL hfits hspans hs
    rw [htype] at hspans hs
    have htaken : TakenAt d o L.toNat cursor found := by
      refine ⟨?_, hfour, by omega, ?_⟩
      · rw [← hagree _ (Nat.le_succ o), hL]
        rfl
      · rw [← hspans]
        refine (stringSpans_congr fun j hj => ?_).symm
        rw [getElem?_writeAll_uuidWrites_of_le buf hj, hagree j (by omega)]
    have hwrites : structureWrites buf (typeAt d o) o (o + L.toNat) found =
        structureWrites d (typeAt d o) o (o + L.toNat) found := by
      rw [structureWrites, structureWrites]
      congr 1
      exact List.filterMap_congr fun field _ =>
        fieldWrite_congr fun _ _ => hagree _ (by omega)
    rw [hwrites] at hs
    exact Or.inr ⟨_, _, _, _, htaken, hs⟩

/-- The writes of one pass. -/
theorem TakenAt.getElem?_writeAll {L cursor : Nat} {found : List (Nat × Nat)}
    (h : TakenAt d o L cursor found) (hlength : buf.length = d.length) (j : Nat) :
    let out := writeAll buf (structureWrites d (typeAt d o) o (o + L) found)
    (∀ v, Overwrites d o j v → out[j]? = some v) ∧
      ((∀ v, ¬ Overwrites d o j v) → out[j]? = buf[j]?) := by
  refine ⟨fun v hv => ?_, fun hnone => ?_⟩
  · obtain ⟨w, hw, hcovers, -⟩ := h.covers_iff.mpr hv
    refine getElem?_writeAll_of_covers (fun w hw hcovers => ?_) ⟨w, hw, hcovers⟩
      (hlength ▸ hv.lt_length)
    exact (h.covers_iff.mp ⟨w, hw, hcovers, rfl⟩).unique hv
  · refine getElem?_writeAll_of_not_covers (fun w hw hcovers => ?_) buf
    exact hnone w.value (h.covers_iff.mp ⟨w, hw, hcovers, rfl⟩)

/-- A run overwrites what the positions it visits make it overwrite, and nothing else. -/
theorem sanitizeLoop_overwrites (st : SanitizeState)
    (hlength : st.sanitized.out.length = d.length)
    (hagree : ∀ j, st.offset ≤ j → st.sanitized.out[j]? = d[j]?) :
    ∃ s, sanitizeLoop.run st = .ok s ∧ OverwrittenFrom d st.offset st.sanitized.out s.out := by
  refine Loop.run_rule_of (L := sanitizeLoop)
    (I := fun st => st.sanitized.out.length = d.length ∧
      ∀ j, st.offset ≤ j → st.sanitized.out[j]? = d[j]?)
    (P := fun st r => ∃ s, r = .ok s ∧ OverwrittenFrom d st.offset st.sanitized.out s.out)
    (fun st hst => ?_) ⟨hlength, hagree⟩
  show Loop.PassKeeps _ st (sanitizePass st)
  obtain ⟨⟨buf, log⟩, o⟩ := st
  obtain ⟨hlength, hagree⟩ := hst
  simp only at hlength hagree
  -- what starts at `o`, or what is visited from where the pass goes on to
  have hhead : ∀ {o' : Nat}, Visits d o o' → o' = o ∨ ∃ e, GoesOn d o e ∧ Visits d e o' :=
    fun h => (Relation.ReflTransGen.cases_head h).imp Eq.symm id
  rcases sanitizePass_of_agree hlength hagree log with
    ⟨hs, hnone⟩ | ⟨L, cursor, found, log', htaken, hs⟩
  · rw [hs, Loop.passKeeps_done]
    refine fun _ => ⟨_, rfl, fun j => ⟨fun o' v hvisits hv => ?_, fun _ => rfl⟩⟩
    rcases hhead hvisits with rfl | ⟨e, ⟨-, L, found, htaken⟩, -⟩
    · obtain ⟨L, cursor, found, htaken⟩ := hv.taken
      exact absurd htaken (hnone L cursor found)
    · exact absurd htaken (hnone L e found)
  · obtain hpass := htaken.getElem?_writeAll hlength
    simp only at hs hpass
    rw [hs]
    split
    · rename_i ht
      rw [Loop.passKeeps_done]
      refine fun _ => ⟨_, rfl, fun j => ⟨fun o' v hvisits hv => ?_, fun hnone => ?_⟩⟩
      · rcases hhead hvisits with rfl | ⟨e, ⟨ht', -⟩, -⟩
        · exact (hpass j).1 v hv
        · exact absurd ht ht'
      · exact (hpass j).2 fun v => hnone o v .refl
    · rename_i ht
      have hgo : GoesOn d o cursor := ⟨ht, L, found, htaken⟩
      rw [Loop.passKeeps_next]
      intro r hr _
      have hbehind : ∀ j, cursor ≤ j →
          (writeAll buf (structureWrites d (typeAt d o) o (o + L) found))[j]? = d[j]? := by
        intro j hj
        rw [(hpass j).2 fun v hv => absurd (hv.bounds htaken).2.1 (Nat.not_lt.mpr hj),
          hagree j (by have := hgo.lt; omega)]
      obtain ⟨s, rfl, hrest⟩ := hr ⟨(length_writeAll _ _).trans hlength, hbehind⟩
      simp only at hrest ⊢
      refine ⟨s, rfl, fun j => ⟨fun o' v hvisits hv => ?_, fun hnone => ?_⟩⟩
      · rcases hhead hvisits with rfl | ⟨e, ⟨-, _, _, htaken'⟩, hvisits'⟩
        · -- the passes to come write behind the cursor
          have hlt := (hv.bounds htaken).2.1
          rw [(hrest j).2 fun o'' v' hvisits'' hv' => ?_, (hpass j).1 v hv]
          obtain ⟨_, _, _, htaken''⟩ := hv'.taken
          have := hvisits''.le
          have := (hv'.bounds htaken'').1
          omega
        · obtain ⟨-, rfl, -⟩ := htaken.unique htaken'
          exact (hrest j).1 o' v hvisits' hv
      · rw [(hrest j).2 fun o' v hvisits => hnone o' v (.head hgo hvisits)]
        exact (hpass j).2 fun v => hnone o v .refl

/-- The sanitizer on any data. -/
theorem sanitize_overwrites (d : Bytes) :
    ∃ s, sanitize d = .ok s ∧ s.out.length = d.length ∧ OverwrittenFrom d 0 d s.out := by
  obtain ⟨s, hs, hlength, -⟩ := sanitizeLoop_keeps ⟨⟨d, []⟩, 0⟩
  obtain ⟨s', hs', hout⟩ := sanitizeLoop_overwrites ⟨⟨d, []⟩, 0⟩ rfl fun _ _ => rfl
  obtain rfl : s = s' := Except.ok.inj (hs.symm.trans hs')
  exact ⟨s, hs, hlength, hout⟩

/-- The NULs of the output are those of the data and the bytes of the UUIDs. -/
theorem OverwrittenFrom.nul_iff {out : Bytes} (h : OverwrittenFrom d 0 d out) (j : Nat) :
    out[j]? = some 0 ↔ d[j]? = some 0 ∨ ∃ o, Visits d 0 o ∧ InUuid d o j := by
  rcases Classical.em (∃ o v, Visits d 0 o ∧ Overwrites d o j v) with
    ⟨o, v, hvisits, hv⟩ | hnone
  · rw [(h j).1 o v hvisits hv, Option.some.injEq]
    obtain ⟨L, cursor, found, htaken⟩ := hv.taken
    obtain ⟨-, -, huuid, hchar⟩ := hv.bounds htaken
    rcases Nat.lt_or_ge j (o + L) with hj | hj
    · exact iff_of_true (huuid hj).2 (Or.inr ⟨o, hvisits, (huuid hj).1⟩)
    · refine iff_of_false ?_ ?_
      · rw [(hchar hj).1]
        decide
      · rintro (hnul | ⟨o', hvisits', hj'⟩)
        · exact (hchar hj).2 hnul
        · have hzero := (h j).1 o' 0 hvisits' (Or.inl ⟨hj', rfl⟩)
          rw [(h j).1 o v hvisits hv, (hchar hj).1] at hzero
          exact absurd hzero (by decide)
  · rw [(h j).2 fun o v hvisits hv => hnone ⟨o, v, hvisits, hv⟩]
    refine ⟨Or.inl, fun hnul => hnul.resolve_right ?_⟩
    rintro ⟨o, hvisits, hj⟩
    exact hnone ⟨o, 0, hvisits, Or.inl ⟨hj, rfl⟩⟩

/-- The header of what is visited is left as it is. -/
theorem OverwrittenFrom.header {out : Bytes} (h : OverwrittenFrom d 0 d out) {s j : Nat}
    (hs : Visits d 0 s) (hj : s ≤ j) (hj' : j < s + 4) : out[j]? = d[j]? := by
  refine (h j).2 fun o v hvisits hv => ?_
  obtain ⟨L, cursor, found, htaken⟩ := hv.taken
  obtain ⟨hbehind, hlt, -⟩ := hv.bounds htaken
  have hnext := (hvisits.next_le htaken hs (by omega)).2
  omega

end

end TruenasPydmi
