/-
  Sanitize/Faults.lean --- the sanitizer on tables that the walker rejects.

  The sanitizer cannot raise, so what is rejected must still be rejected when it has
  been sanitized, or a damaged capture would pass for a sound one.  It is, and with
  the same error: the headers of what the sanitizer visits are not written to, and the
  NULs of a string set stay where they are.  The error changes in one case only.
  Behind a string set that never closes the sanitizer goes on as if a structure began
  behind the last NUL, and where it comes to take one for a system structure it zeroes
  a UUID, and these zeros close the set (`FirstUuid`).
-/
import TruenasPydmi.Sanitize.Preserve
import TruenasPydmi.Sanitize.Any
import TruenasPydmi.Sanitize.Splice

set_option autoImplicit false

namespace TruenasPydmi

open TruenasPydmi.Foundation TruenasPydmi.Python

/-! ## String sets that never close -/

section

variable {buf : Bytes} {cursor : Nat} {found : List (Nat × Nat)}

/-- Where a string set never closes the cursor is left one past the last NUL. -/
theorem spanLoop_of_not_closes (out : Bytes) (s : SpanState)
    (h : ∀ p, ¬ Closes 0 out s.cursor p) :
    ∃ result, (spanLoop out).run s = .ok result ∧ PastLast 0 out s.cursor result.1 := by
  refine Loop.run_rule (L := spanLoop out)
    (P := fun s r => (∀ p, ¬ Closes 0 out s.cursor p) →
      ∃ result, r = .ok result ∧ PastLast 0 out s.cursor result.1) (fun s => ?_) s h
  show Loop.PassKeeps _ s (spanPass out s)
  rcases spanPass_cases out s with ⟨hfind, hs⟩ | ⟨nul, hfind, ⟨hd, hs⟩ | ⟨hd, hs⟩⟩
  · rw [hs, Loop.passKeeps_done]
    exact fun _ => ⟨_, rfl, Or.inl ⟨rfl, findFrom_eq_none_iff.mp hfind⟩⟩
  · rw [hs, Loop.passKeeps_done]
    exact fun hnone => absurd (closes_of_doubled hfind hd) (hnone nul)
  · rw [hs, Loop.passKeeps_next]
    intro r hr hnone
    obtain ⟨hle, hz, -⟩ := findFrom_eq_some_iff.mp hfind
    obtain ⟨result, hresult, hpast⟩ :=
      hr fun p hp => hnone p ((closes_iff_of_not_doubled hfind hd p).mpr hp)
    exact ⟨result, hresult, hpast.of_succ hle hz⟩

theorem stringSpans_of_not_closes {out : Bytes} {i : Nat} (hnone : ∀ p, ¬ Closes 0 out i p)
    (h : stringSpans out i = .ok (cursor, found)) : PastLast 0 out i cursor := by
  have hd : ¬ (out[i]? = some 0 ∧ out[i + 1]? = some 0) := by
    rintro ⟨hz, hz'⟩
    obtain ⟨p, hp⟩ := exists_closes le_rfl (doubled_of_getElem? hz hz')
    exact hnone p hp
  obtain ⟨result, hrun, hpast⟩ := spanLoop_of_not_closes out ⟨i, []⟩ hnone
  rw [stringSpans, doubleNulAt_eq, ok_bind, if_neg (by simpa using hd), hrun,
    Except.ok.injEq] at h
  rw [h] at hpast
  exact hpast

end

/-! ## What the sanitizer visits -/

section

variable {d : Bytes} {stop s o o' L k : Nat} {fr : Frame} {frs : List Frame}
  {found : List (Nat × Nat)}

/-- A structure that is in order is taken for what it is. -/
theorem FrameAt.taken (h : FrameAt d stop o fr o') (hstop : stop ≤ d.length) :
    TakenAt d o fr.length o' (stringSetSpans d fr.formattedEnd fr.term) := by
  have hlength := h.fits.lengthByte
  have hfits := h.fits.le_stop
  have hspans := stringSpans_of_closes h.fits.closes
  have hnext : fr.term + 2 = o' := h.next_eq
  rw [h.start_eq] at hlength
  rw [h.formattedEnd_eq] at hfits
  rw [hnext, h.formattedEnd_eq] at hspans
  exact ⟨hlength, h.fits.four_le, by omega, h.formattedEnd_eq ▸ hspans⟩

/-- As far as the walker gets, the sanitizer visits the structures one by one. -/
theorem Reaches.visits (h : Reaches d stop o frs k) (hstop : stop ≤ d.length) : Visits d o k := by
  obtain ⟨htile, htype⟩ := h
  induction htile with
  | nil o => exact .refl
  | cons hfr _ ih =>
      have ht := htype _ List.mem_cons_self
      rw [Frame.type, hfr.start_eq] at ht
      exact .head ⟨ht, _, _, hfr.taken hstop⟩
        (ih fun fr hfr => htype fr (List.mem_cons_of_mem _ hfr))

/-- The first system structure with a UUID that the sanitizer comes to from `o` on. -/
def FirstUuid (d : Bytes) (o o' : Nat) : Prop :=
  IsLeast {o' | o ≤ o' ∧ Visits d 0 o' ∧ HasUuid d o'} o'

/-- The UUIDs behind the formatted area stand behind the strings as well. -/
theorem TakenAt.le_of_inUuid {j : Nat} (h : TakenAt d s L o found) (hs : Visits d 0 s)
    (ho' : Visits d 0 o') (hj : InUuid d o' j) (hbehind : s + L ≤ j) : o ≤ o' := by
  obtain ⟨⟨htype, L', cursor, found', htaken, hL'⟩, hlow, hhigh⟩ := hj
  rcases Nat.lt_trichotomy s o' with hlt | rfl | hgt
  · exact (hs.next_le h ho' hlt).2
  · obtain ⟨rfl, -, -⟩ := h.unique htaken
    omega
  · have := (ho'.next_le htaken hs hgt).2
    have := htaken.le_cursor
    omega

end

/-! ## The faulty structure -/

/-- What starts at `s` has a header and a formatted area, and a string set that never
closes; `o` is behind its last NUL. -/
structure UnclosedAt (d : Bytes) (stop s L o : Nat) : Prop where
  lengthByte : (d[s + 1]?).map UInt8.toNat = some L
  four_le : 4 ≤ L
  le_stop : s + L ≤ stop
  not_closes : ∀ p, ¬ Closes 0 d (s + L) p
  pastLast : PastLast 0 d (s + L) o

theorem unterminatedMessage_congr {buf out : Bytes} (h : out.length = buf.length) (o : Nat) :
    unterminatedMessage out o = unterminatedMessage buf o := by
  rw [unterminatedMessage, unterminatedMessage, h]

/-- A fault lies in the string set, or the length byte alone decides on it. -/
theorem Fault.cases_unclosed {d : Bytes} {stop s o : Nat} {message : String}
    (h : Fault d stop s message o) :
    message ≠ unterminatedMessage d o ∧
        (∀ out : Bytes, out[s + 1]? = d[s + 1]? → Fault out stop s message o) ∨
      message = unterminatedMessage d o ∧ ∃ L, UnclosedAt d stop s L o := by
  cases h with
  | header hlt =>
      refine Or.inl ⟨?_, fun out _ => .header hlt⟩
      unfold unterminatedMessage
      split <;> decide
  | @length L hheader hL hfour =>
      refine Or.inl ⟨fun h => ?_, fun out hout => .length hheader (hout.trans hL) hfour⟩
      have hletter := congrArg (fun s => s.toList[3]?) h
      unfold unterminatedMessage at hletter
      split at hletter <;> simp at hletter
  | formatted hheader hL hfour hfits =>
      refine Or.inl ⟨?_, fun out hout => .formatted hheader (hout.trans hL) hfour hfits⟩
      unfold unterminatedMessage
      split <;> decide
  | @unterminated L o hheader hL hfour hfits hnone hpast =>
      exact Or.inr ⟨rfl, L.toNat, by rw [hL]; rfl, hfour, hfits, hnone, hpast⟩

namespace UnclosedAt

variable {d out : Bytes} {stop s L o o' : Nat}

theorem fault (h : UnclosedAt d stop s L o) : Fault d stop s (unterminatedMessage d o) o := by
  obtain ⟨b, hb, rfl⟩ := Option.map_eq_some_iff.mp h.lengthByte
  have hfour := h.four_le
  have hstop := h.le_stop
  exact .unterminated (by omega) hb hfour hstop h.not_closes h.pastLast

/-- The sanitizer goes on where the walker reports the set. -/
theorem taken (h : UnclosedAt d stop s L o) (hstop : stop ≤ d.length) :
    ∃ found, TakenAt d s L o found := by
  obtain ⟨cursor, found, hspans, -⟩ := stringSpans_bounds d (s + L)
  obtain rfl : cursor = o := (stringSpans_of_not_closes h.not_closes hspans).unique h.pastLast
  exact ⟨found, h.lengthByte, h.four_le, h.le_stop.trans hstop, hspans⟩

/-- Behind the formatted area new NULs stand in the UUIDs behind `o` only. -/
theorem nul_iff (h : UnclosedAt d stop s L o) (hstop : stop ≤ d.length)
    (hout : OverwrittenFrom d 0 d out) (hs : Visits d 0 s) {m : Nat} (hm : s + L ≤ m) :
    out[m]? = some 0 ↔ d[m]? = some 0 ∨ ∃ o', o ≤ o' ∧ Visits d 0 o' ∧ InUuid d o' m := by
  obtain ⟨found, htaken⟩ := h.taken hstop
  rw [hout.nul_iff]
  refine or_congr_right (exists_congr fun o' => ⟨fun hj => ?_, fun hj => hj.2⟩)
  exact ⟨htaken.le_of_inUuid hs hj.1 hj.2 hm, hj⟩

/-- The set stays as it is where no UUID is zeroed behind it. -/
theorem overwritten (h : UnclosedAt d stop s L o) (hstop : stop ≤ d.length)
    (hout : OverwrittenFrom d 0 d out) (hs : Visits d 0 s) (hnone : ¬ ∃ o', FirstUuid d o o') :
    UnclosedAt out stop s L o := by
  have hsame : ∀ m, s + L ≤ m → (out[m]? = some 0 ↔ d[m]? = some 0) := by
    intro m hm
    rw [h.nul_iff hstop hout hs hm, or_iff_left]
    rintro ⟨o', hle, hvisits, huuid, -⟩
    classical
    have hex : ∃ o', o ≤ o' ∧ Visits d 0 o' ∧ HasUuid d o' := ⟨o', hle, hvisits, huuid⟩
    exact hnone ⟨Nat.find hex, Nat.find_spec hex, fun o'' ho'' => Nat.find_min' hex ho''⟩
  refine ⟨?_, h.four_le, h.le_stop, fun p hp => ?_, h.pastLast.congr hsame⟩
  · rw [hout.header hs (Nat.le_succ s) (by omega), h.lengthByte]
  · exact h.not_closes p (hp.congr fun k hk _ => (hsame k hk).symm)

/-- The first UUID that is zeroed behind the set closes it. -/
theorem closes (h : UnclosedAt d stop s L o) (hstop : stop ≤ d.length)
    (hout : OverwrittenFrom d 0 d out) (hs : Visits d 0 s) (hfirst : FirstUuid d o o') :
    Closes 0 out (s + L) (o' + 8) := by
  obtain ⟨⟨hle, hvisits, huuid⟩, hleast⟩ := hfirst
  have hso := (h.pastLast.bounds (h.le_stop.trans hstop)).1
  have hzero : ∀ j, o' + 8 ≤ j → j < o' + 24 → out[j]? = some 0 := fun j hj hj' =>
    (hout j).1 o' 0 hvisits (Or.inl ⟨⟨huuid, hj, hj'⟩, rfl⟩)
  -- in front of that UUID the NULs are those of `d`
  have hfront : ∀ q, s + L ≤ q → q < o' + 8 → out[q]? = some 0 → d[q]? = some 0 := by
    intro q hq hlt hnul
    refine ((h.nul_iff hstop hout hs hq).mp hnul).resolve_right ?_
    rintro ⟨o'', hle', hvisits', huuid', hlow, -⟩
    have : o' ≤ o'' := hleast ⟨hle', hvisits', huuid'⟩
    omega
  refine ⟨⟨by omega, doubled_of_getElem? (hzero _ le_rfl (by omega))
    (hzero _ (by omega) (by omega))⟩, ?_⟩
  rintro q ⟨hq, -, hnul, hnul'⟩
  by_contra hlt
  have hnul := hfront q hq (by omega) hnul
  have hqo : q < o := Nat.lt_of_not_le fun hle => h.pastLast.none_behind hle hnul
  have hnul' := hfront (q + 1) (by omega) (by omega) hnul'
  obtain ⟨p, hp⟩ := exists_closes hq (doubled_of_getElem? hnul hnul')
  exact h.not_closes p hp

/-- With its set closed by a UUID the structure is in order. -/
theorem frameAt (h : UnclosedAt d stop s L o) (hstop : stop ≤ d.length)
    (hout : OverwrittenFrom d 0 d out) (hs : Visits d 0 s) (hfirst : FirstUuid d o o') :
    FrameAt out stop s ⟨s, L, o' + 8⟩ (o' + 10) ∧ Frame.type out ⟨s, L, o' + 8⟩ ≠ 127 := by
  have hlength : (out[s + 1]?).map UInt8.toNat = some L := by
    rw [hout.header hs (Nat.le_succ s) (by omega), h.lengthByte]
  refine ⟨⟨rfl, ⟨hlength, h.four_le, h.le_stop, h.closes hstop hout hs hfirst⟩, rfl⟩, ?_⟩
  obtain ⟨found, htaken⟩ := h.taken hstop
  obtain ⟨⟨hle, hvisits, -⟩, -⟩ := hfirst
  have hso := htaken.le_cursor
  have hfour := h.four_le
  have htype := (hs.next_le htaken hvisits (by omega)).1
  have hagree : Agree out s d s 1 := fun j hj => hout.header hs (by omega) (by omega)
  exact (congrArg fromLE (hagree.slice_eq (a := 0) le_rfl)).trans_ne htype

end UnclosedAt

/-! ## Tables -/

/-- A string set that was open ends with the zeros of a UUID at `k`, and the walker
reports what it takes the rest of them for, as far as the declared length admits it. -/
structure EndsWithZeros (out : Bytes) (n k : Nat) : Prop where
  zeros : ∀ j < 16, out[k + j]? = some 0
  accepted : tableEnd out n ≤ k + 2 → ∃ rs, walkStructures out n = .ok rs
  header : k + 2 < tableEnd out n → tableEnd out n < k + 6 →
    walkStructures out n = protocolError "truncated structure header" (k + 2)
  length : k + 6 ≤ tableEnd out n →
    walkStructures out n = protocolError "structure length 0 < 4" (k + 2)

theorem endsWithZeros_of_frameAt {out : Bytes} {n m k : Nat} {fr : Frame} {frs : List Frame}
    (hr : Reaches out (tableEnd out n) 0 frs m) (hfr : FrameAt out (tableEnd out n) m fr (k + 2))
    (ht : fr.type out ≠ 127) (hzeros : ∀ j < 16, out[k + j]? = some 0) :
    EndsWithZeros out n k := by
  have hnext : Reaches out (tableEnd out n) 0 (frs ++ [fr]) (k + 2) :=
    hr.trans ((Reaches.refl _).cons hfr ht)
  refine ⟨hzeros, fun hle => ?_, fun hlt hlt' => ?_, fun hle => ?_⟩
  · exact ⟨_, walkStructures_ok_iff.mpr ⟨_, _, hr.accepts_of_le hfr hle, rfl⟩⟩
  · exact walkStructures_error_iff.mpr ⟨_, _, hnext, hlt, .header (by omega)⟩
  · have hfault : Fault out (tableEnd out n) (k + 2) "structure length 0 < 4" (k + 2) :=
      .length (by omega) (hzeros 3 (by omega)) (by decide)
    exact walkStructures_error_iff.mpr ⟨_, _, hnext, by omega, hfault⟩

/-- A table that is rejected is rejected with the same error when it has been
sanitized, unless a UUID is zeroed behind a string set that never closed; that set then
ends with the first such UUID. -/
theorem walkStructures_sanitized {d : Bytes} {s : Sanitized} (hs : sanitize d = .ok s) {n o : Nat}
    {message : String} (h : walkStructures d n = protocolError message o) :
    (¬ (message = unterminatedMessage d o ∧ ∃ o', FirstUuid d o o') →
        walkStructures s.out n = protocolError message o) ∧
      (message = unterminatedMessage d o → ∀ o', FirstUuid d o o' →
        EndsWithZeros s.out n (o' + 8)) := by
  obtain ⟨s', hs', hlength, hout⟩ := sanitize_overwrites d
  obtain rfl : s = s' := Except.ok.inj (hs.symm.trans hs')
  obtain ⟨frs, m, hr, hm, hfault⟩ := walkStructures_error_iff.mp h
  have hle := tableEnd_le d n
  have hvisits := hr.visits hle
  obtain ⟨hrs, -⟩ := hr.sanitized hle hs
  have hend : tableEnd s.out n = tableEnd d n := by rw [tableEnd, tableEnd, hlength]
  have herror : ∀ {message : String}, Fault s.out (tableEnd d n) m message o →
      walkStructures s.out n = protocolError message o := fun hfault =>
    walkStructures_error_iff.mpr ⟨frs, m, hend ▸ hrs, hend ▸ hm, hend ▸ hfault⟩
  rcases hfault.cases_unclosed with ⟨hne, hkept⟩ | ⟨rfl, L, hunclosed⟩
  · exact ⟨fun _ => herror (hkept _ (hout.header hvisits (Nat.le_succ m) (by omega))),
      fun heq => absurd heq hne⟩
  · refine ⟨fun hnone => ?_, fun _ o' hfirst => ?_⟩
    · have hkept := (hunclosed.overwritten hle hout hvisits fun hex => hnone ⟨rfl, hex⟩).fault
      rw [unterminatedMessage_congr hlength] at hkept
      exact herror hkept
    · obtain ⟨hfr, htype⟩ := hunclosed.frameAt hle hout hvisits hfirst
      refine endsWithZeros_of_frameAt (hend ▸ hrs) (hend ▸ hfr) htype fun j hj => ?_
      obtain ⟨⟨-, hvisits', huuid⟩, -⟩ := hfirst
      exact (hout _).1 o' 0 hvisits' (Or.inl ⟨⟨huuid, by omega, by omega⟩, rfl⟩)

/-- A table is accepted when it has been sanitized exactly when it was before.  Under
every declared length an error stays the error it was, except where the strings of a
structure never end and behind their last NUL the sanitizer takes some position of the
data for a system structure with a UUID: the strings then end with that UUID. -/
theorem sanitize_faults (d : Bytes) :
    ∃ s, sanitize d = .ok s ∧
      ((∃ rs, walkStructures s.out 0 = .ok rs) ↔ ∃ rs, walkStructures d 0 = .ok rs) ∧
      ∀ n message o, walkStructures d n = protocolError message o →
        (¬ (message = unterminatedMessage d o ∧ ∃ o', FirstUuid d o o') →
          walkStructures s.out n = protocolError message o) ∧
        (message = unterminatedMessage d o → ∀ o', FirstUuid d o o' →
          EndsWithZeros s.out n (o' + 8)) := by
  obtain ⟨s, hs, hlength, -⟩ := sanitize_overwrites d
  refine ⟨s, hs, ⟨?_, ?_⟩, fun n message o h => walkStructures_sanitized hs h⟩
  · rintro ⟨rs, hrs⟩
    rcases walkStructures_outcome d 0 with hok | ⟨message, o, h⟩
    · exact hok
    · obtain ⟨hsame, hzeros⟩ := walkStructures_sanitized hs h
      by_cases hex : message = unterminatedMessage d o ∧ ∃ o', FirstUuid d o o'
      · obtain ⟨hmessage, o', hfirst⟩ := hex
        have hk := hzeros hmessage o' hfirst
        have hlt := (List.getElem?_eq_some_iff.mp (hk.zeros 15 (by omega))).1
        have hend : tableEnd s.out 0 = s.out.length := tableEnd_eq_length (Or.inl rfl)
        exact absurd (hrs.symm.trans (hk.length (by omega))) (ok_ne_protocolError rs)
      · exact absurd (hrs.symm.trans (hsame hex)) (ok_ne_protocolError rs)
  · rintro ⟨rs, hrs⟩
    obtain ⟨_, _, s', -, -, hs', -, -, hwalk⟩ := sanitize_of_walk hrs
    obtain rfl : s = s' := Except.ok.inj (hs.symm.trans hs')
    exact ⟨_, hwalk⟩

/-- The error does change: a baseboard whose strings are never closed, and in their
place 24 bytes that are taken for a system structure. -/
example :
    let d : Bytes := [2, 8, 7, 0, 0, 0, 0, 1, 1, 24, 5, 5, 5, 5, 5, 5, 5, 5, 5, 5, 5, 5, 5, 5, 5, 5,
      5, 5, 5, 5, 5, 5]
    walkStructures d 0 = protocolError "string table not terminated" 8 ∧
      (sanitize d).toOption.map (fun s => walkStructures s.out 0) =
        some (protocolError "structure length 0 < 4" 18) := by
  decide

end TruenasPydmi
