/-
  Walk/Block.lean --- tables put together from blocks.

  A block is a stretch of bytes that holds exactly one structure.  A structure is
  decoded from its own bytes alone (`FrameAt.transport`), so blocks laid end to
  end decode to the structures of the blocks, wherever they stand and whatever
  follows them.
-/
import TruenasPydmi.Walk.Grammar

set_option autoImplicit false

namespace TruenasPydmi

open TruenasPydmi.Foundation TruenasPydmi.Python

/-- The bytes `b` are those of the one structure `r`. -/
def IsBlock (b : Bytes) (r : RawStructure) : Prop :=
  ∃ fr, FrameAt b b.length 0 fr b.length ∧ fr.decode b = r

/-- What the walker turns into one structure is a block, unless the structure is
an End-of-Table. -/
theorem isBlock_of_walk {b : Bytes} {r : RawStructure} (h : walkStructures b 0 = .ok [r])
    (ht : r.type ≠ 127) : IsBlock b r := by
  obtain ⟨frs, e, ha, hrs⟩ := walkStructures_ok_iff.mp h
  rw [tableEnd_eq_length (Or.inl rfl)] at ha
  have hle := ha.le_length (Nat.zero_le _)
  obtain ⟨fr, rfl, rfl⟩ : ∃ fr, frs = [fr] ∧ fr.decode b = r := by
    rw [eq_comm, List.map_eq_singleton_iff] at hrs
    exact hrs
  obtain ⟨htile, -, hend⟩ := accepts_iff_tiling.mp ha
  have he : e = b.length := by
    rcases hend with ⟨g, hg, htype⟩ | hend
    · obtain rfl : fr = g := by simpa using hg
      exact absurd htype ht
    · omega
  rw [Tiling.singleton_iff, he] at htile
  exact ⟨fr, htile, rfl⟩

section

variable {buf : Bytes} {stop o : Nat}

/-- A block decodes to its structure wherever it stands. -/
theorem IsBlock.frameAt {b : Bytes} {r : RawStructure} (h : IsBlock b r)
    (hagree : Agree buf o b 0 b.length) (hstop : o + b.length ≤ stop) :
    ∃ fr, FrameAt buf stop o fr (o + b.length) ∧ fr.decode buf = r := by
  obtain ⟨fr, hfr, rfl⟩ := h
  have hfe := hfr.formattedEnd_eq
  have hle := hfr.fits.le_stop
  obtain ⟨hfr', hdecode⟩ := hfr.transport (by simpa using hagree)
    (show o + fr.length ≤ stop by omega)
  exact ⟨_, by simpa using hfr', hdecode⟩

/-- Blocks laid end to end decode to their structures. -/
theorem tiling_of_blocks {bs : List Bytes} {rs : List RawStructure}
    (h : List.Forall₂ IsBlock bs rs) (hagree : Agree buf o bs.flatten 0 bs.flatten.length)
    (hstop : o + bs.flatten.length ≤ stop) :
    ∃ frs, Tiling (FrameAt buf stop) o frs (o + bs.flatten.length) ∧
      frs.map (Frame.decode buf) = rs := by
  induction h generalizing o with
  | nil => exact ⟨[], by simp, rfl⟩
  | @cons b r bs rs hb hbs ih =>
      simp only [List.flatten_cons, List.length_append] at hagree hstop ⊢
      have hhead : Agree buf o b 0 b.length := by
        intro k hk
        rw [hagree k (by omega), Nat.zero_add, List.getElem?_append_left hk]
      have hrest : Agree buf (o + b.length) bs.flatten 0 bs.flatten.length := by
        intro k hk
        rw [Nat.add_assoc, hagree (b.length + k) (by omega), Nat.zero_add, Nat.zero_add,
          List.getElem?_append_right (Nat.le_add_right _ _), Nat.add_sub_cancel_left]
      obtain ⟨fr, hfr, rfl⟩ := hb.frameAt hhead (show o + b.length ≤ stop by omega)
      obtain ⟨frs, hfrs, rfl⟩ := ih hrest (by omega)
      rw [← Nat.add_assoc]
      exact ⟨fr :: frs, .cons hfr hfrs, rfl⟩

end

/-- Blocks without an End-of-Table, laid end to end, are read completely and
whatever stands behind them is read next. -/
theorem reaches_of_blocks {bs : List Bytes} {rs : List RawStructure} (post : Bytes) {stop : Nat}
    (h : List.Forall₂ IsBlock bs rs) (ht : ∀ r ∈ rs, r.type ≠ 127)
    (hstop : bs.flatten.length ≤ stop) :
    ∃ frs, Reaches (bs.flatten ++ post) stop 0 frs bs.flatten.length ∧
      frs.map (Frame.decode (bs.flatten ++ post)) = rs := by
  have hagree : Agree (bs.flatten ++ post) 0 bs.flatten 0 bs.flatten.length := by
    intro k hk
    rw [List.getElem?_append_left (by omega)]
  obtain ⟨frs, htile, hdecode⟩ := tiling_of_blocks h hagree
    (show 0 + bs.flatten.length ≤ stop by omega)
  rw [Nat.zero_add] at htile
  refine ⟨frs, ⟨htile, fun fr hfr => ?_⟩, hdecode⟩
  refine ht (fr.decode (bs.flatten ++ post)) ?_
  rw [← hdecode]
  exact List.mem_map_of_mem hfr

/-- A table that consists of blocks decodes to their structures. -/
theorem walkStructures_of_blocks {bs : List Bytes} {rs : List RawStructure} {n : Nat}
    (h : List.Forall₂ IsBlock bs rs) (ht : ∀ r ∈ rs, r.type ≠ 127)
    (hn : n = 0 ∨ bs.flatten.length ≤ n) : walkStructures bs.flatten n = .ok rs := by
  obtain ⟨frs, hr, rfl⟩ := reaches_of_blocks [] h ht le_rfl
  rw [List.append_nil] at hr ⊢
  have ha := hr.accepts (.atEnd le_rfl)
  rw [List.append_nil] at ha
  rw [walkStructures_ok_iff, tableEnd_eq_length hn]
  exact ⟨frs, _, ha, rfl⟩

end TruenasPydmi
