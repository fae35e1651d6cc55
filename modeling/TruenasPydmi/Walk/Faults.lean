/-
  Walk/Faults.lean --- where a decoder error points.

  The walker reports an error at a position `s` only after everything before `s`
  has decoded: `buf[:s]` is a stream of its own (`CleanPrefix`).  What it reports
  there is the first case of `Fault` that applies, and every fault behind a clean
  prefix is reported.
-/
import TruenasPydmi.Walk.Grammar

set_option autoImplicit false

namespace TruenasPydmi

open TruenasPydmi.Foundation TruenasPydmi.Python

/-- `buf[:s]` walked without a limit is accepted, consumed completely, and holds
no End-of-Table. -/
def CleanPrefix (buf : Bytes) (s : Nat) : Prop :=
  ∃ rs o, walkStructures (buf.take s) 0 = .ok rs ∧
    StreamBoundaries (buf.take s) rs o ∧ o rs.length = s ∧ ∀ r ∈ rs, r.type ≠ 127

/-- A prefix is clean exactly when a run of the walker reaches its end. -/
theorem cleanPrefix_iff_reaches {buf : Bytes} {stop s : Nat} (hs : s ≤ stop)
    (hstop : stop ≤ buf.length) :
    CleanPrefix buf s ↔ ∃ frs, Reaches buf stop 0 frs s := by
  have hlen : (buf.take s).length = s := List.length_take_of_le (hs.trans hstop)
  have hagree : Agree (buf.take s) 0 buf 0 (s - 0) := agree_take buf s (by omega)
  constructor
  · rintro ⟨rs, o, -, hb, ho, htype⟩
    obtain ⟨frs, ha, rfl⟩ := (exists_boundaries_iff _ _ _).mp ⟨o, hb, ho⟩
    rw [hlen] at ha
    have hr : Reaches (buf.take s) s 0 frs s := by
      refine ⟨ha.tiling, fun fr hfr => ?_⟩
      exact htype (fr.decode (buf.take s)) (List.mem_map_of_mem hfr)
    exact ⟨frs, (hr.congr hagree.symm hs).1⟩
  · rintro ⟨frs, hr⟩
    obtain ⟨hr', -⟩ := hr.congr hagree le_rfl
    have ha : Accepts (buf.take s) (buf.take s).length 0 frs s := by
      simpa [hlen] using hr'.accepts (.atEnd le_rfl)
    obtain ⟨o, hb, ho⟩ := (exists_boundaries_iff _ _ _).mpr ⟨frs, ha, rfl⟩
    refine ⟨frs.map (Frame.decode (buf.take s)), o, ?_, hb, ho, ?_⟩
    · rw [walkStructures_ok_iff, tableEnd_eq_length (Or.inl rfl)]
      exact ⟨frs, s, ha, rfl⟩
    · intro r hr
      obtain ⟨fr, hfr, rfl⟩ := List.mem_map.mp hr
      exact hr'.2 fr hfr

/-- A decoder error points at the first malformed structure: the walker raises
`DMIProtocolError` with a message and an offset exactly when a clean prefix is
followed by a fault with that message and offset. -/
theorem walkStructures_error_iff_fault (buf : Bytes) (maxLength : Nat) (message : String)
    (o : Nat) :
    walkStructures buf maxLength = protocolError message o ↔
      ∃ s, s < tableEnd buf maxLength ∧ s ≤ o ∧ o ≤ buf.length ∧ CleanPrefix buf s ∧
        Fault buf (tableEnd buf maxLength) s message o := by
  have hstop := tableEnd_le buf maxLength
  rw [walkStructures_error_iff]
  constructor
  · rintro ⟨frs, s, hr, hs, hfault⟩
    obtain ⟨hso, hlen⟩ := hfault.bounds hs hstop
    exact ⟨s, hs, hso, hlen, (cleanPrefix_iff_reaches (Nat.le_of_lt hs) hstop).mpr ⟨frs, hr⟩,
      hfault⟩
  · rintro ⟨s, hs, -, -, hclean, hfault⟩
    obtain ⟨frs, hr⟩ := (cleanPrefix_iff_reaches (Nat.le_of_lt hs) hstop).mp hclean
    exact ⟨frs, s, hr, hs, hfault⟩

end TruenasPydmi
