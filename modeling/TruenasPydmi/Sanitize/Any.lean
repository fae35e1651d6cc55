/-
  Sanitize/Any.lean --- the sanitizer on data of any kind.

  Captured data may be damaged, and the sanitizer has no way of raising.  On any
  bytes at all it ends, keeps the length and the NULs, and writes only to the UUIDs
  and the sensitive strings of what it takes for structures, wherever that is.  And
  the structures that are in order in front of the damage are rewritten as they are
  in a sound table.
-/
import TruenasPydmi.Sanitize.Leak
import TruenasPydmi.Sanitize.Visits

set_option autoImplicit false

namespace TruenasPydmi

open TruenasPydmi.Foundation TruenasPydmi.Python

/-- The structures that the walker gets past stand in the sanitized data where they
stood, each rewritten. -/
theorem Reaches.sanitized {d : Bytes} {stop k : Nat} {frs : List Frame} {s : Sanitized}
    (hr : Reaches d stop 0 frs k) (hstop : stop ≤ d.length) (hs : sanitize d = .ok s) :
    Reaches s.out stop 0 frs k ∧ ∀ fr ∈ frs, RewrittenAt d fr s.out := by
  obtain ⟨s', hrun', -, -, hrewritten, -⟩ :=
    sanitizeLoop_run (hr.mono hstop).1 (fun fr hfr => hr.2 fr (List.dropLast_subset _ hfr)) []
  obtain rfl : s = s' := Except.ok.inj (hs.symm.trans hrun')
  refine ⟨⟨hr.1.imp fun fr hfr o o' hat => ?_, fun fr hfr => ?_⟩, hrewritten⟩
  · exact ((hrewritten fr hfr).alike hat).frameAt hat hat.fits.le_stop
  · obtain ⟨o, o', hat, -⟩ := hr.1.exists_at FrameAt.lt hfr
    rw [((hrewritten fr hfr).alike hat).type_eq]
    exact hr.2 fr hfr

/-- On any data the sanitizer returns data of the same length with all its NULs.  It
writes zeros to the UUIDs of what it takes for system structures and the letter `A` to
the strings that index bytes of what it takes for structures designate, and leaves the
rest as it is.  As far as the walker gets, structures are rewritten, stand where they
stood, and are redacted. -/
theorem sanitize_any (d : Bytes) :
    ∃ s, sanitize d = .ok s ∧ s.out.length = d.length ∧
      (∀ j : Nat, d[j]? = some 0 → s.out[j]? = some 0) ∧
      (∀ o j, Visits d 0 o → InUuid d o j → s.out[j]? = some 0) ∧
      (∀ o j, Visits d 0 o → InSensitiveString d o j →
        d[j]? ≠ some 0 ∧ s.out[j]? = some 65) ∧
      (∀ j : Nat, (∀ o, Visits d 0 o → ¬ InUuid d o j ∧ ¬ InSensitiveString d o j) →
        s.out[j]? = d[j]?) ∧
      ∀ frs k, Reaches d d.length 0 frs k →
        Reaches s.out s.out.length 0 frs k ∧
          ∀ fr ∈ frs, RewrittenAt d fr s.out ∧ (fr.decode s.out).Redacted := by
  obtain ⟨s, hrun, hlength, hall⟩ := sanitize_overwrites d
  refine ⟨s, hrun, hlength, fun j hnul => ?_, fun o j hvisits hj => ?_, fun o j hvisits hj => ?_,
    fun j hnone => ?_, fun frs k hr => ?_⟩
  · exact (hall.nul_iff j).mpr (Or.inl hnul)
  · exact (hall j).1 o 0 hvisits (Or.inl ⟨hj, rfl⟩)
  · have hv : Overwrites d o j 65 := Or.inr ⟨hj, rfl⟩
    obtain ⟨L, cursor, found, htaken⟩ := hv.taken
    obtain ⟨-, -, huuid, hchar⟩ := hv.bounds htaken
    have hbehind : o + L ≤ j := Nat.le_of_not_lt fun hlt =>
      absurd (huuid hlt).2 (by decide)
    exact ⟨(hchar hbehind).2, (hall j).1 o 65 hvisits hv⟩
  · refine (hall j).2 fun o v hvisits hv => ?_
    obtain ⟨huuid, hchar⟩ := hnone o hvisits
    exact hv.elim (fun h => huuid h.1) fun h => hchar h.1
  · obtain ⟨hr', hrewritten⟩ := hr.sanitized le_rfl hrun
    refine ⟨hlength ▸ hr', fun fr hfr => ?_⟩
    obtain ⟨o, o', hat, -⟩ := hr.1.exists_at FrameAt.lt hfr
    exact ⟨hrewritten fr hfr, (hrewritten fr hfr).redacted hat⟩

end TruenasPydmi
