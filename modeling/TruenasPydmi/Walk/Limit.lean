/-
  Walk/Limit.lean --- what the declared table length bounds, and what it does not.

  The header and the formatted area of a structure are held against the declared
  end of the table; the search for the end of its string set is held against the
  end of the data.  So the declared length is a hard bound exactly for tables
  whose string sets all close inside it.  `OpenStringSet` is the condition on the
  declared bytes under which some string set does not, and `Straddles` the same
  for one given continuation of the data.
-/
import TruenasPydmi.Walk.Grammar

set_option autoImplicit false

namespace TruenasPydmi

open TruenasPydmi.Foundation TruenasPydmi.Python

/-- Two runs have the same outcome: the same structures, or both raise
`DMIProtocolError`. -/
def SameOutcome (r r' : Except Raised (List RawStructure)) : Prop :=
  (∃ rs, r = .ok rs ∧ r' = .ok rs) ∨
    (∃ message o, r = protocolError message o) ∧ ∃ message o, r' = protocolError message o

/-- In the table `t`, behind structures that are all in order and none of which is
an End-of-Table, there is one whose header and formatted area are complete and
whose string set does not close. -/
def OpenStringSet (t : Bytes) : Prop :=
  ∃ frs s L, Reaches t t.length 0 frs s ∧ t[s + 1]? = some L ∧ 4 ≤ L.toNat ∧
    s + L.toNat ≤ t.length ∧ ∀ p, ¬ Closes 0 t (s + L.toNat) p

/-- A structure that starts in the first `n` bytes of `buf`, behind structures
that are all in order and none of which is an End-of-Table, has its formatted
area in these bytes and its string set closing past them. -/
def Straddles (buf : Bytes) (n : Nat) : Prop :=
  ∃ frs s fr e, Reaches buf n 0 frs s ∧ FrameAt buf n s fr e ∧ n < e

theorem tableEnd_of_le {buf : Bytes} {n : Nat} (hn : 0 < n) (hbuf : n ≤ buf.length) :
    tableEnd buf n = n := by
  rw [tableEnd, if_pos hn, Nat.min_eq_right hbuf]

section

variable {buf : Bytes} {n : Nat}

/-- What the declared bytes alone yield, every table that begins with them
yields. -/
theorem walkStructures_of_take (hn : 0 < n) (hbuf : n ≤ buf.length) {rs : List RawStructure}
    (h : walkStructures (buf.take n) 0 = .ok rs) : walkStructures buf n = .ok rs := by
  have hlen : (buf.take n).length = n := List.length_take_of_le hbuf
  obtain ⟨frs, e, ha, rfl⟩ := walkStructures_ok_iff.mp h
  rw [tableEnd_eq_length (Or.inl rfl), hlen] at ha
  have he : e ≤ n := hlen ▸ ha.le_length (Nat.zero_le _)
  obtain ⟨ha', hmap⟩ := ha.congr (agree_take buf n (by omega)).symm he
  rw [walkStructures_ok_iff, tableEnd_of_le hn hbuf]
  exact ⟨frs, e, ha', hmap.symm⟩

/-- Where no string set straddles the declared end, the bytes past it are not
read. -/
theorem walkStructures_take_of_not_straddles (hn : 0 < n) (hbuf : n ≤ buf.length)
    (hstraddles : ¬ Straddles buf n) {rs : List RawStructure}
    (h : walkStructures buf n = .ok rs) : walkStructures (buf.take n) 0 = .ok rs := by
  have hlen : (buf.take n).length = n := List.length_take_of_le hbuf
  obtain ⟨frs, e, ha, rfl⟩ := walkStructures_ok_iff.mp h
  rw [tableEnd_of_le hn hbuf] at ha
  have he : e ≤ n := by
    rcases ha.cases_last with ⟨-, rfl⟩ | ⟨init, fr, s, rfl, hr, hfr⟩
    · exact Nat.zero_le n
    · by_contra hlt
      exact hstraddles ⟨init, s, fr, e, hr, hfr, by omega⟩
  obtain ⟨ha', hmap⟩ := ha.congr (agree_take buf n (by omega)) he
  rw [walkStructures_ok_iff, tableEnd_eq_length (Or.inl rfl), hlen]
  exact ⟨frs, e, ha', hmap.symm⟩

/-- A string set that straddles the declared end is accepted. -/
theorem walkStructures_of_straddles (hn : 0 < n) (hbuf : n ≤ buf.length)
    (h : Straddles buf n) : ∃ rs, walkStructures buf n = .ok rs := by
  obtain ⟨frs, s, fr, e, hr, hfr, hlt⟩ := h
  refine ⟨(frs ++ [fr]).map (Frame.decode buf), ?_⟩
  rw [walkStructures_ok_iff, tableEnd_of_le hn hbuf]
  exact ⟨_, e, hr.accepts_of_le hfr (Nat.le_of_lt hlt), rfl⟩

/-- In the declared bytes alone a string set that straddles their end is open. -/
theorem Straddles.openStringSet (hbuf : n ≤ buf.length) (h : Straddles buf n) :
    OpenStringSet (buf.take n) := by
  obtain ⟨frs, s, fr, e, hr, hfr, hlt⟩ := h
  have hlen : (buf.take n).length = n := List.length_take_of_le hbuf
  have hheader := hfr.header_le
  have hfe := hfr.formattedEnd_eq
  have hfits := hfr.fits.le_stop
  obtain ⟨L, hL, hLlen⟩ := hfr.exists_lengthByte
  obtain ⟨hr', -⟩ := hr.congr (agree_take buf n (by omega)) (show s ≤ n by omega)
  refine ⟨frs, s, L, by rwa [hlen], ?_, hLlen ▸ hfr.fits.four_le, by omega, ?_⟩
  · rw [List.getElem?_take, if_pos (by omega), hL]
  · intro p hp
    have hdoubled := hp.doubled
    have hplt := hp.lt_length
    rw [hlen] at hplt
    have hp' : fr.term ≤ p := by
      refine hfr.fits.closes.2 ⟨by rw [hfe, ← hLlen]; exact hp.le, doubled_of_getElem? ?_ ?_⟩
      · rw [← hdoubled.2.1, List.getElem?_take, if_pos (by omega)]
      · rw [← hdoubled.2.2, List.getElem?_take, if_pos (by omega)]
    have hnext := hfr.next_eq
    rw [Frame.next] at hnext
    omega

end

section

variable {t : Bytes}

/-- An open string set makes the declared bytes alone a malformed table. -/
theorem OpenStringSet.walkStructures_error (h : OpenStringSet t) :
    ∃ message o, walkStructures t 0 = protocolError message o := by
  obtain ⟨frs, s, L, hr, hL, hfour, hfits, hnone⟩ := h
  rcases frameAt_or_fault (le_refl t.length) s with ⟨fr, e, hfr⟩ | ⟨message, o, hfault⟩
  · have hcloses := hfr.fits.closes
    rw [hfr.formattedEnd_eq, ← hfr.toNat_lengthByte hL] at hcloses
    exact absurd hcloses (hnone _)
  · refine ⟨message, o, ?_⟩
    rw [walkStructures_error_iff, tableEnd_eq_length (Or.inl rfl)]
    exact ⟨frs, s, hr, by omega, hfault⟩

/-- Two NULs behind the declared bytes close an open string set. -/
theorem OpenStringSet.straddles (h : OpenStringSet t) : Straddles (t ++ [0, 0]) t.length := by
  obtain ⟨frs, s, L, hr, hL, hfour, hfits, hnone⟩ := h
  have hget : ∀ i, i < t.length → (t ++ [0, 0])[i]? = t[i]? :=
    fun i hi => List.getElem?_append_left hi
  have hagree : Agree (t ++ [0, 0]) 0 t 0 (s - 0) := by
    intro k hk
    exact hget _ (by omega)
  obtain ⟨hr', -⟩ := hr.congr hagree (show s ≤ t.length by omega)
  have hend : Doubled 0 (t ++ [0, 0]) t.length :=
    doubled_of_getElem? (by simp) (by simp)
  obtain ⟨p, hp⟩ := exists_closes hfits hend
  refine ⟨frs, s, ⟨s, L.toNat, p⟩, p + 2, hr',
    ⟨rfl, ⟨?_, hfour, hfits, hp⟩, rfl⟩, ?_⟩
  · show ((t ++ [0, 0])[s + 1]?).map UInt8.toNat = some L.toNat
    rw [hget _ (by omega), hL, Option.map_some]
  · -- were the set closed inside `t`, it would close there in `t` alone
    by_contra hle
    refine hnone p (hp.congr fun k _ hk => ?_)
    rw [hget k (by omega)]

end

/-- A given continuation of the declared bytes goes unread exactly when no string
set straddles the declared end. -/
theorem walkStructures_iff_take_iff {buf : Bytes} {n : Nat} (hn : 0 < n)
    (hbuf : n ≤ buf.length) :
    (∀ rs, walkStructures buf n = .ok rs ↔ walkStructures (buf.take n) 0 = .ok rs) ↔
      ¬ Straddles buf n := by
  constructor
  · intro h hstraddles
    obtain ⟨rs, hrs⟩ := walkStructures_of_straddles hn hbuf hstraddles
    obtain ⟨message, o, herror⟩ := (hstraddles.openStringSet hbuf).walkStructures_error
    rw [h rs, herror] at hrs
    simp at hrs
  · exact fun hnot rs =>
      ⟨walkStructures_take_of_not_straddles hn hbuf hnot, walkStructures_of_take hn hbuf⟩

/-- All continuations of the declared bytes go unread exactly when these leave no
string set open. -/
theorem forall_walkStructures_iff_take_iff {t : Bytes} (ht : 0 < t.length) :
    (∀ buf, t.length ≤ buf.length → buf.take t.length = t →
        ∀ rs, walkStructures buf t.length = .ok rs ↔ walkStructures t 0 = .ok rs) ↔
      ¬ OpenStringSet t := by
  constructor
  · intro h hopen
    have hbuf : t.length ≤ (t ++ [0, 0]).length := by simp
    refine (walkStructures_iff_take_iff ht hbuf).mp ?_ hopen.straddles
    simpa using h (t ++ [0, 0]) hbuf (by simp)
  · intro hnot buf hbuf htake
    have hclosed : ¬ Straddles buf t.length := fun h => hnot (htake ▸ h.openStringSet hbuf)
    have := (walkStructures_iff_take_iff ht hbuf).mpr hclosed
    rwa [htake] at this

/-- The same, for two continuations held against each other. -/
theorem forall_sameOutcome_iff {t : Bytes} (ht : 0 < t.length) :
    (∀ buf1 buf2, t.length ≤ buf1.length → t.length ≤ buf2.length →
        buf1.take t.length = t → buf2.take t.length = t →
        SameOutcome (walkStructures buf1 t.length) (walkStructures buf2 t.length)) ↔
      ¬ OpenStringSet t := by
  constructor
  · intro h hopen
    have hbuf : t.length ≤ (t ++ [0, 0]).length := by simp
    obtain ⟨rs, hrs⟩ := walkStructures_of_straddles ht hbuf hopen.straddles
    obtain ⟨message, o, herror⟩ := hopen.walkStructures_error
    have hwhole : walkStructures t t.length = walkStructures t 0 := by
      unfold walkStructures
      simp only [tableEnd_eq_length (Or.inl rfl), tableEnd_eq_length (Or.inr le_rfl)]
    rcases h t (t ++ [0, 0]) le_rfl hbuf List.take_length (by simp) with
      ⟨rs', hrs', -⟩ | ⟨-, message', o', herror'⟩
    · rw [hwhole, herror] at hrs'
      simp at hrs'
    · rw [hrs] at herror'
      simp at herror'
  · intro hnot buf1 buf2 hbuf1 hbuf2 htake1 htake2
    have h1 := (forall_walkStructures_iff_take_iff ht).mpr hnot buf1 hbuf1 htake1
    have h2 := (forall_walkStructures_iff_take_iff ht).mpr hnot buf2 hbuf2 htake2
    rcases walkStructures_outcome buf1 t.length with ⟨rs, hrs⟩ | herror1
    · exact Or.inl ⟨rs, hrs, (h2 rs).mpr ((h1 rs).mp hrs)⟩
    · rcases walkStructures_outcome buf2 t.length with ⟨rs, hrs⟩ | herror2
      · exact Or.inl ⟨rs, (h1 rs).mpr ((h2 rs).mp hrs), hrs⟩
      · exact Or.inr ⟨herror1, herror2⟩

/-- A table of four bytes, the header of a structure without strings: alone it is
malformed, two more NULs behind its declared end complete it. -/
theorem not_sameOutcome_header :
    ¬ SameOutcome (walkStructures [1, 4, 0, 0] 4) (walkStructures [1, 4, 0, 0, 0, 0] 4) := by
  have herror : walkStructures [1, 4, 0, 0] 4 =
      protocolError "string table not terminated (eof)" 4 := by decide
  have hok : walkStructures [1, 4, 0, 0, 0, 0] 4 = .ok [⟨1, 0, [], []⟩] := by decide
  rw [herror, hok]
  rintro (⟨rs, hrs, -⟩ | ⟨-, message, o, herror'⟩)
  · simp at hrs
  · simp at herror'

/-- The declared table length bounds what is read exactly for the tables in whose
declared bytes `t` every string set that starts also closes.  For those, all
continuations of the data have the outcome of the declared bytes alone; for the
others some do not, namely those that close the open string set. -/
theorem declaredLength_bounds_iff (n : Nat) (t : Bytes) (hn : 0 < n) (ht : t.length = n) :
    ((∀ buf1 buf2, n ≤ buf1.length → n ≤ buf2.length → buf1.take n = t → buf2.take n = t →
        SameOutcome (walkStructures buf1 n) (walkStructures buf2 n)) ↔ ¬ OpenStringSet t) ∧
    ((∀ buf, n ≤ buf.length → buf.take n = t →
        ∀ rs, walkStructures buf n = .ok rs ↔ walkStructures t 0 = .ok rs) ↔
      ¬ OpenStringSet t) ∧
    (∀ buf, n ≤ buf.length → buf.take n = t →
      ((∀ rs, walkStructures buf n = .ok rs ↔ walkStructures t 0 = .ok rs) ↔
        ¬ Straddles buf n)) := by
  subst ht
  refine ⟨forall_sameOutcome_iff hn, forall_walkStructures_iff_take_iff hn,
    fun buf hbuf htake => ?_⟩
  have := walkStructures_iff_take_iff hn hbuf
  rwa [htake] at this

/-- The header alone leaves its string set open. -/
theorem declaredLength_bounds_iff_header : OpenStringSet [1, 4, 0, 0] := by
  by_contra hclosed
  exact not_sameOutcome_header
    ((declaredLength_bounds_iff 4 [1, 4, 0, 0] (by decide) rfl).1.mpr hclosed
      [1, 4, 0, 0] [1, 4, 0, 0, 0, 0] (by decide) (by decide) rfl rfl)

/-- Bytes past the declared end of a table influence the outcome. -/
theorem declaredLength_not_bound :
    ¬ ∀ n > 0, ∀ buf1 buf2 : Bytes, n ≤ buf1.length → n ≤ buf2.length →
      buf1.take n = buf2.take n →
      SameOutcome (walkStructures buf1 n) (walkStructures buf2 n) := by
  intro h
  exact not_sameOutcome_header
    (h 4 (by decide) [1, 4, 0, 0] [1, 4, 0, 0, 0, 0] (by decide) (by decide) rfl)

end TruenasPydmi
