/-
  Sanitize/Run.lean --- whole runs of the sanitizer.

  Two facts about a run carry everything.  It never touches what it has passed
  (`sanitizeLoop_keeps`), whatever bytes are to come; and where the structures of
  the stream are in order it passes them one by one and leaves each rewritten
  (`sanitizeLoop_run`).  The run lemma is an induction over the structures: a pass
  rewrites the first and leaves the bytes of the others as they were, so they are
  still structures with the same boundaries.
-/
import TruenasPydmi.Sanitize.Rewrite

set_option autoImplicit false

namespace TruenasPydmi

open TruenasPydmi.Foundation TruenasPydmi.Python

/-- The sanitizer ends, whatever the table contains, and does not touch what lies
before the offset it starts from. -/
theorem sanitizeLoop_keeps (st : SanitizeState) :
    ∃ s, sanitizeLoop.run st = .ok s ∧ s.out.length = st.sanitized.out.length ∧
      ∀ j < st.offset, s.out[j]? = st.sanitized.out[j]? := by
  refine Loop.run_rule (L := sanitizeLoop)
    (P := fun st r => ∃ s, r = .ok s ∧ s.out.length = st.sanitized.out.length ∧
      ∀ j < st.offset, s.out[j]? = st.sanitized.out[j]?) (fun st => ?_) st
  show Loop.PassKeeps _ st (sanitizePass st)
  rcases sanitizePass_cases st with
    ⟨hs, -⟩ | ⟨L, cursor, found, log, -, hfour, hcursor, -, hfound, -, hs⟩
  · rw [hs, Loop.passKeeps_done]
    exact ⟨_, rfl, rfl, fun _ _ => rfl⟩
  · rw [hs]
    simp only
    split
    · rw [Loop.passKeeps_done]
      exact ⟨_, rfl, length_writeAll _ _, fun j hj =>
        getElem?_structureWrites_of_lt hfour hfound hj⟩
    · rw [Loop.passKeeps_next]
      rintro r ⟨s, hr, hlength, hkeeps⟩
      refine ⟨s, hr, hlength.trans (length_writeAll _ _), fun j hj => ?_⟩
      rw [hkeeps j (show j < cursor by omega)]
      exact getElem?_structureWrites_of_lt hfour hfound hj

/-- A pass over a structure rewrites it and reports its entries. -/
theorem sanitizePass_of_frameAt {buf : Bytes} {o o' : Nat} {fr : Frame}
    (hfr : FrameAt buf buf.length o fr o') (log : List String) :
    let log' := log ++ structureEntries buf (fr.type buf) fr.start fr.formattedEnd (fr.spans buf)
    sanitizePass ⟨⟨buf, log⟩, o⟩ =
      .ok (if fr.type buf = 127 then .done ⟨rewrite buf fr, log'⟩
        else .next ⟨⟨rewrite buf fr, log'⟩, o'⟩) := by
  obtain ⟨L, hL, hLlen⟩ := hfr.exists_lengthByte
  have hfour := hfr.fits.four_le
  have hfits := hfr.fits.le_stop
  have hfe := hfr.formattedEnd_eq
  rcases sanitizePass_run ⟨⟨buf, log⟩, o⟩ with
    ⟨-, hnone⟩ | ⟨L', cursor, found, hL', -, -, hspans, hs⟩
  · have := hnone L hL (by omega)
    simp only at this
    omega
  · obtain rfl : L = L' := Option.some.inj (hL.symm.trans hL')
    simp only [hLlen, ← hfe] at hspans hs
    obtain ⟨rfl, rfl⟩ := stringSpans_of_closes_uuid hspans hfr.fits.closes
    rw [hs, ← hfr.next_eq, ← hfr.start_eq]
    rfl

/-- Rewriting a structure leaves those behind it as they are: they stand where they
stood, have the same types and are rewritten to the same bytes. -/
theorem rewrite_tail {buf : Bytes} {o m e : Nat} {fr : Frame} {frs : List Frame}
    (hfr : FrameAt buf buf.length o fr m) (htile : Tiling (FrameAt buf buf.length) m frs e) :
    Tiling (FrameAt (rewrite buf fr) (rewrite buf fr).length) m frs e ∧
      ∀ g ∈ frs, g.type (rewrite buf fr) = g.type buf ∧
        ∀ out, RewrittenAt (rewrite buf fr) g out → RewrittenAt buf g out := by
  obtain ⟨-, hkeeps⟩ := rewrite_spec hfr
  have he := tiling_le_length htile hfr.le_length
  have hagree : Agree (rewrite buf fr) m buf m (e - m) :=
    fun k _ => hkeeps _ (Or.inr (Nat.le_add_right _ _))
  obtain ⟨htile', hdecode⟩ := tiling_congr htile hagree
    (show e ≤ (rewrite buf fr).length by rwa [length_rewrite])
  refine ⟨htile', fun g hg => ⟨congrArg RawStructure.type (hdecode g hg), fun out hout => ?_⟩⟩
  obtain ⟨a, b, hat, hma, -⟩ := htile'.exists_at FrameAt.lt hg
  refine hout.congr_of_eq hat fun j hj _ => ?_
  rw [hat.start_eq] at hj
  exact (hkeeps j (Or.inr (by omega))).symm

/-- A run over structures that are in order rewrites them, and touches nothing
behind an End-of-Table. -/
theorem sanitizeLoop_run {buf : Bytes} {o e : Nat} {frs : List Frame}
    (h : Tiling (FrameAt buf buf.length) o frs e)
    (htype : ∀ fr ∈ frs.dropLast, fr.type buf ≠ 127) (log : List String) :
    ∃ s, sanitizeLoop.run ⟨⟨buf, log⟩, o⟩ = .ok s ∧ s.out.length = buf.length ∧
      (∀ j < o, s.out[j]? = buf[j]?) ∧ (∀ fr ∈ frs, RewrittenAt buf fr s.out) ∧
      ((∃ fr, frs.getLast? = some fr ∧ fr.type buf = 127) → ∀ j, e ≤ j → s.out[j]? = buf[j]?) := by
  induction frs generalizing buf o log with
  | nil =>
      obtain ⟨s, hrun, hlength, hkeeps⟩ := sanitizeLoop_keeps ⟨⟨buf, log⟩, o⟩
      exact ⟨s, hrun, hlength, hkeeps, by simp, by simp⟩
  | cons fr frs ih =>
      obtain ⟨m, hfr, htile⟩ := Tiling.cons_iff.mp h
      obtain ⟨hrewritten, hkeeps⟩ := rewrite_spec hfr
      have hpass := sanitizePass_of_frameAt hfr log
      simp only at hpass
      have hom := hfr.lt
      by_cases ht : fr.type buf = 127
      · have hfrs : frs = [] := by
          by_contra hne
          exact htype fr (by rw [List.dropLast_cons_of_ne_nil hne]; simp) ht
        subst hfrs
        obtain rfl := Tiling.nil_iff.mp htile
        rw [if_pos ht] at hpass
        refine ⟨_, Loop.run_of_done (L := sanitizeLoop) hpass, length_rewrite buf fr,
          fun j hj => hkeeps j (Or.inl hj), by simpa using hrewritten,
          fun _ j hj => hkeeps j (Or.inr hj)⟩
      · -- the rest of the stream, in the table with the first structure rewritten
        rw [if_neg ht] at hpass
        have hme := htile.le FrameAt.lt
        obtain ⟨htile', htail⟩ := rewrite_tail hfr htile
        have htype' : ∀ g ∈ frs.dropLast, g.type (rewrite buf fr) ≠ 127 := by
          intro g hg
          have hne : frs ≠ [] := by
            rintro rfl
            simp at hg
          rw [(htail g (List.dropLast_subset _ hg)).1]
          rw [List.dropLast_cons_of_ne_nil hne] at htype
          exact htype g (List.mem_cons_of_mem _ hg)
        obtain ⟨s, hrun, hlength, hbefore, hall, hend⟩ := ih htile' htype' _
        refine ⟨s, (Loop.run_of_next (L := sanitizeLoop) hpass).trans hrun,
          hlength.trans (length_rewrite buf fr), fun j hj => ?_, ?_, ?_⟩
        · rw [hbefore j (by omega), hkeeps j (Or.inl hj)]
        · refine List.forall_mem_cons.mpr ⟨?_, fun g hg => (htail g hg).2 _ (hall g hg)⟩
          refine hrewritten.of_eq hfr fun j _ hj => hbefore j ?_
          rwa [hfr.next_eq] at hj
        · rintro ⟨g, hg, hgt⟩ j hj
          have hne : frs ≠ [] := by
            rintro rfl
            obtain rfl : fr = g := by simpa using hg
            exact ht hgt
          rw [List.getLast?_cons_of_ne_nil hne] at hg
          rw [hend ⟨g, hg, (htail g (List.mem_of_getLast? hg)).1.trans hgt⟩ j hj,
            hkeeps j (Or.inr (by omega))]

end TruenasPydmi
