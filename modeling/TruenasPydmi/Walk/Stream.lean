/-
  Walk/Stream.lean --- the structure stream as a whole.

  `Accepts buf stop o frs e` is the judgement that the walker, started at `o`,
  accepts the structures `frs` and leaves off at `e`: either it has come to the
  declared end of the table, or it has read an End-of-Table structure.
  `Reaches buf stop o frs s` is the run so far of a walker that is still going:
  the structures `frs` fill the positions from `o` up to `s` and none of them is
  an End-of-Table.

  The walker returns exactly what `Accepts` derives (`walkStructures_ok_iff`),
  and it raises exactly at the faults that are reached
  (`walkStructures_error_iff`).  Every later statement about the walker goes
  through these two.
-/
import TruenasPydmi.Foundation.Tiling
import TruenasPydmi.Walk.Frame

set_option autoImplicit false

namespace TruenasPydmi

open TruenasPydmi.Foundation TruenasPydmi.Python

/-- The walker started at the first position accepts these structures and leaves
off at the second. -/
inductive Accepts (buf : Bytes) (stop : Nat) : Nat → List Frame → Nat → Prop where
  | atEnd {o : Nat} : stop ≤ o → Accepts buf stop o [] o
  | endOfTable {o o' : Nat} {fr : Frame} :
      FrameAt buf stop o fr o' → fr.type buf = 127 → Accepts buf stop o [fr] o'
  | step {o o' e : Nat} {fr : Frame} {frs : List Frame} :
      FrameAt buf stop o fr o' → fr.type buf ≠ 127 → Accepts buf stop o' frs e →
      Accepts buf stop o (fr :: frs) e

/-- The walker started at the first position has read these structures and goes
on at the second. -/
def Reaches (buf : Bytes) (stop o : Nat) (frs : List Frame) (s : Nat) : Prop :=
  Tiling (FrameAt buf stop) o frs s ∧ ∀ fr ∈ frs, fr.type buf ≠ 127

section

variable {buf : Bytes} {stop o o' s e : Nat} {fr : Frame} {frs frs' : List Frame}

theorem Reaches.refl (o : Nat) : Reaches buf stop o [] o :=
  ⟨.nil o, by simp⟩

theorem Reaches.cons (h : FrameAt buf stop o fr o') (ht : fr.type buf ≠ 127)
    (hr : Reaches buf stop o' frs s) : Reaches buf stop o (fr :: frs) s :=
  ⟨.cons h hr.1, by simpa [ht] using hr.2⟩

/-- Where structures stand and what they say depends on their bytes and on nothing
else. -/
theorem tiling_congr {buf' : Bytes} {stop' : Nat} (h : Tiling (FrameAt buf stop) o frs e)
    (hagree : Agree buf' o buf o (e - o)) (he : e ≤ stop') :
    Tiling (FrameAt buf' stop') o frs e ∧
      ∀ fr ∈ frs, fr.decode buf' = fr.decode buf := by
  induction h with
  | nil o => exact ⟨.nil o, by simp⟩
  | @cons o m e fr frs hfr htile ih =>
      have hlt := hfr.lt
      have hme := htile.le FrameAt.lt
      have hfe := hfr.formattedEnd_add_two_le
      obtain ⟨hfr', hdecode⟩ :=
        hfr.congr (hagree.mono (show m - o ≤ e - o by omega))
          (show fr.formattedEnd ≤ stop' by omega)
      have hrest : Agree buf' m buf m (e - m) := by
        have := Agree.shift (m := m - o) (n := e - m)
          (hagree.mono (show m - o + (e - m) ≤ e - o by omega))
        rwa [Nat.add_sub_cancel' (Nat.le_of_lt hlt)] at this
      obtain ⟨htile', hmap⟩ := ih hrest he
      exact ⟨.cons hfr' htile', List.forall_mem_cons.mpr ⟨hdecode, hmap⟩⟩

theorem Reaches.mono {stop' : Nat} (h : Reaches buf stop o frs s) (hstop : stop ≤ stop') :
    Reaches buf stop' o frs s :=
  ⟨h.1.imp fun _ _ _ _ hat => hat.mono (hat.fits.le_stop.trans hstop), h.2⟩

/-- A run depends on the bytes it has read and on nothing else. -/
theorem Reaches.congr {buf' : Bytes} {stop' : Nat} (h : Reaches buf stop o frs s)
    (hagree : Agree buf' o buf o (s - o)) (hs : s ≤ stop') :
    Reaches buf' stop' o frs s ∧ frs.map (Frame.decode buf') = frs.map (Frame.decode buf) := by
  obtain ⟨htile, hdecode⟩ := tiling_congr h.1 hagree hs
  refine ⟨⟨htile, fun fr hfr => ?_⟩, List.map_congr_left hdecode⟩
  rw [show fr.type buf' = fr.type buf from congrArg RawStructure.type (hdecode fr hfr)]
  exact h.2 fr hfr

/-- A run that reached a position accepts what is accepted from there on. -/
theorem Reaches.accepts (h : Reaches buf stop o frs s) (ha : Accepts buf stop s frs' e) :
    Accepts buf stop o (frs ++ frs') e := by
  obtain ⟨htile, htype⟩ := h
  induction htile with
  | nil o => exact ha
  | @cons o m s fr frs hfr _ ih =>
      have hhead : fr.type buf ≠ 127 := htype fr (by simp)
      exact .step hfr hhead (ih ha fun g hg => htype g (by simp [hg]))

theorem Accepts.tiling (h : Accepts buf stop o frs e) : Tiling (FrameAt buf stop) o frs e := by
  induction h with
  | atEnd _ => exact .nil _
  | endOfTable hfr _ => exact .cons hfr (.nil _)
  | step hfr _ _ ih => exact .cons hfr ih

/-- Acceptance read off a tiling: only the last structure may be an End-of-Table,
and without one the declared end is reached. -/
theorem accepts_iff_tiling :
    Accepts buf stop o frs e ↔
      Tiling (FrameAt buf stop) o frs e ∧ (∀ fr ∈ frs.dropLast, fr.type buf ≠ 127) ∧
        ((∃ fr, frs.getLast? = some fr ∧ fr.type buf = 127) ∨ stop ≤ e) := by
  constructor
  · intro h
    refine ⟨h.tiling, ?_⟩
    induction h with
    | atEnd hle => exact ⟨by simp, Or.inr hle⟩
    | @endOfTable o o' fr hfr ht => exact ⟨by simp, Or.inl ⟨fr, rfl, ht⟩⟩
    | @step o o' e fr frs hfr ht ha ih =>
        cases frs with
        | nil =>
            refine ⟨by simp, ?_⟩
            rcases ih.2 with ⟨g, hg, -⟩ | hle
            · simp at hg
            · exact Or.inr hle
        | cons g gs =>
            refine ⟨?_, by simpa using ih.2⟩
            rw [List.dropLast_cons_cons]
            simpa [ht] using ih.1
  · rintro ⟨htile, htype, hend⟩
    induction htile with
    | nil o =>
        rcases hend with ⟨g, hg, -⟩ | hle
        · simp at hg
        · exact .atEnd hle
    | @cons o m e fr frs hfr htile ih =>
        cases frs with
        | nil =>
            rw [Tiling.nil_iff] at htile
            subst htile
            rcases hend with ⟨g, hg, ht⟩ | hle
            · obtain rfl : fr = g := by simpa using hg
              exact .endOfTable hfr ht
            · by_cases ht : fr.type buf = 127
              · exact .endOfTable hfr ht
              · exact .step hfr ht (.atEnd hle)
        | cons g gs =>
            rw [List.dropLast_cons_cons] at htype
            refine .step hfr (htype fr (by simp)) (ih (fun k hk => htype k (by simp [hk])) ?_)
            simpa using hend

/-- The structures accepted end in one behind a run of the others, if there are
any. -/
theorem Accepts.cases_last (h : Accepts buf stop o frs e) :
    (frs = [] ∧ e = o) ∨
      ∃ init fr s, frs = init ++ [fr] ∧ Reaches buf stop o init s ∧ FrameAt buf stop s fr e := by
  induction h with
  | atEnd _ => exact Or.inl ⟨rfl, rfl⟩
  | @endOfTable o o' fr hfr _ => exact Or.inr ⟨[], fr, o, rfl, .refl o, hfr⟩
  | @step o o' e fr frs hfr ht _ ih =>
      rcases ih with ⟨rfl, rfl⟩ | ⟨init, g, s, rfl, hr, hg⟩
      · exact Or.inr ⟨[], fr, o, rfl, .refl o, hfr⟩
      · exact Or.inr ⟨fr :: init, g, s, rfl, hr.cons hfr ht, hg⟩

/-- A structure that runs past the declared end is the last one accepted. -/
theorem Reaches.accepts_of_le (h : Reaches buf stop o frs s) (hfr : FrameAt buf stop s fr e)
    (he : stop ≤ e) : Accepts buf stop o (frs ++ [fr]) e := by
  refine h.accepts ?_
  by_cases ht : fr.type buf = 127
  · exact .endOfTable hfr ht
  · exact .step hfr ht (.atEnd he)

/-- Acceptance depends on the bytes read and on where the table ends. -/
theorem Accepts.congr {buf' : Bytes} (h : Accepts buf stop o frs e)
    (hagree : Agree buf' o buf o (e - o)) (he : e ≤ stop) :
    Accepts buf' stop o frs e ∧ frs.map (Frame.decode buf') = frs.map (Frame.decode buf) := by
  obtain ⟨htile, htype, hend⟩ := accepts_iff_tiling.mp h
  obtain ⟨htile', hdecode⟩ := tiling_congr htile hagree he
  have htype_eq : ∀ fr ∈ frs, fr.type buf' = fr.type buf :=
    fun fr hfr => congrArg RawStructure.type (hdecode fr hfr)
  refine ⟨accepts_iff_tiling.mpr ⟨htile', fun fr hfr => ?_, hend.imp_left ?_⟩,
    List.map_congr_left hdecode⟩
  · rw [htype_eq fr (List.dropLast_subset _ hfr)]
    exact htype fr hfr
  · rintro ⟨fr, hfr, ht⟩
    exact ⟨fr, hfr, (htype_eq fr (List.mem_of_getLast? hfr)).trans ht⟩

theorem tiling_le_length (h : Tiling (FrameAt buf stop) o frs e) (ho : o ≤ buf.length) :
    e ≤ buf.length := by
  induction h with
  | nil o => exact ho
  | cons hfr _ ih => exact ih hfr.le_length

/-- No position belongs to two structures. -/
theorem tiling_covering_unique {fr' : Frame} {j : Nat} (h : Tiling (FrameAt buf stop) o frs e)
    (hfr : fr ∈ frs) (hfr' : fr' ∈ frs) (hj : fr.start ≤ j ∧ j < fr.next)
    (hj' : fr'.start ≤ j ∧ j < fr'.next) : fr = fr' := by
  induction h with
  | nil o => simp at hfr
  | @cons o m e g frs hg htile ih =>
      have hnext := hg.next_eq
      have hrest : ∀ k ∈ frs, m ≤ k.start := by
        intro k hk
        obtain ⟨a, b, hat, hma, -⟩ := htile.exists_at FrameAt.lt hk
        rwa [hat.start_eq]
      rcases List.mem_cons.mp hfr with rfl | hmem
      · rcases List.mem_cons.mp hfr' with rfl | hmem'
        · rfl
        · have := hrest fr' hmem'
          omega
      · rcases List.mem_cons.mp hfr' with rfl | hmem'
        · have := hrest fr hmem
          omega
        · exact ih hmem hmem'

theorem Accepts.le_length (h : Accepts buf stop o frs e) (ho : o ≤ buf.length) :
    e ≤ buf.length :=
  tiling_le_length h.tiling ho

end

/-! ## The outer loop -/

/-- A pass over a structure decodes it. -/
theorem walkPass_of_frameAt {buf : Bytes} {stop o o' : Nat} {fr : Frame}
    (hstop : stop ≤ buf.length) (hfr : FrameAt buf stop o fr o') (acc : List RawStructure) :
    walkPass buf stop ⟨o, acc⟩ =
      .ok (if fr.type buf = 127 then .done (acc ++ [fr.decode buf])
        else .next ⟨o', acc ++ [fr.decode buf]⟩) := by
  have hlt : o < stop := by
    have := hfr.header_le
    omega
  simp only [walkPass, if_pos hlt, walkStructure_of_frameAt hstop hfr, ok_bind, Frame.decode]
  split
  · rfl
  · rfl

/-- A pass over anything else raises. -/
theorem walkPass_of_fault {buf : Bytes} {stop s o : Nat} {message : String}
    (hstop : stop ≤ buf.length) (hs : s < stop) (hfault : Fault buf stop s message o)
    (acc : List RawStructure) : walkPass buf stop ⟨s, acc⟩ = protocolError message o := by
  simp [walkPass, hs, walkStructure_of_fault hstop hfault]

theorem walkPass_of_le {stop o : Nat} (buf : Bytes) (h : stop ≤ o) (acc : List RawStructure) :
    walkPass buf stop ⟨o, acc⟩ = .ok (.done acc) :=
  if_neg (Nat.not_lt.mpr h)

/-- What a pass of the outer loop can do. -/
theorem walkPass_cases {buf : Bytes} {stop : Nat} (hstop : stop ≤ buf.length) (st : WalkState) :
    (stop ≤ st.offset ∧ walkPass buf stop st = .ok (.done st.structures)) ∨
    (∃ fr o', FrameAt buf stop st.offset fr o' ∧ fr.type buf = 127 ∧
      walkPass buf stop st = .ok (.done (st.structures ++ [fr.decode buf]))) ∨
    (∃ fr o', FrameAt buf stop st.offset fr o' ∧ fr.type buf ≠ 127 ∧
      walkPass buf stop st = .ok (.next ⟨o', st.structures ++ [fr.decode buf]⟩)) ∨
    (∃ message o, st.offset < stop ∧ Fault buf stop st.offset message o ∧
      walkPass buf stop st = protocolError message o) := by
  by_cases hlt : st.offset < stop
  · rcases frameAt_or_fault hstop st.offset with ⟨fr, o', hfr⟩ | ⟨message, o, hfault⟩
    · have hpass := walkPass_of_frameAt hstop hfr st.structures
      by_cases ht : fr.type buf = 127
      · rw [if_pos ht] at hpass
        exact Or.inr (Or.inl ⟨fr, o', hfr, ht, hpass⟩)
      · rw [if_neg ht] at hpass
        exact Or.inr (Or.inr (Or.inl ⟨fr, o', hfr, ht, hpass⟩))
    · have hpass := walkPass_of_fault hstop hlt hfault st.structures
      exact Or.inr (Or.inr (Or.inr ⟨message, o, hlt, hfault, hpass⟩))
  · have hle := Nat.le_of_not_lt hlt
    exact Or.inl ⟨hle, walkPass_of_le buf hle st.structures⟩

section

variable {buf : Bytes} {stop : Nat} (hstop : stop ≤ buf.length)

/-- Every run of the walker accepts or ends at a fault it reached. -/
theorem walkLoop_run (st : WalkState) :
    (∃ frs e, Accepts buf stop st.offset frs e ∧
      (walkLoop buf stop hstop).run st = .ok (st.structures ++ frs.map (Frame.decode buf))) ∨
    (∃ frs s message o, Reaches buf stop st.offset frs s ∧ s < stop ∧
      Fault buf stop s message o ∧
      (walkLoop buf stop hstop).run st = protocolError message o) := by
  refine Loop.run_rule (L := walkLoop buf stop hstop)
    (P := fun st r =>
      (∃ frs e, Accepts buf stop st.offset frs e ∧
        r = .ok (st.structures ++ frs.map (Frame.decode buf))) ∨
      (∃ frs s message o, Reaches buf stop st.offset frs s ∧ s < stop ∧
        Fault buf stop s message o ∧ r = protocolError message o))
    (fun st => ?_) st
  show Loop.PassKeeps _ st (walkPass buf stop st)
  rcases walkPass_cases hstop st with
    ⟨hle, hs⟩ | ⟨fr, o', hfr, ht, hs⟩ | ⟨fr, o', hfr, ht, hs⟩ | ⟨message, o, hlt, hfault, hs⟩
  · rw [hs, Loop.passKeeps_done]
    exact Or.inl ⟨[], _, .atEnd hle, by simp⟩
  · rw [hs, Loop.passKeeps_done]
    exact Or.inl ⟨[fr], o', .endOfTable hfr ht, by simp⟩
  · rw [hs, Loop.passKeeps_next]
    rintro r (⟨frs, e, ha, hr⟩ | ⟨frs, s, message, o, hr, hs, hfault, hrun⟩)
    · exact Or.inl ⟨fr :: frs, e, .step hfr ht ha, by simpa using hr⟩
    · exact Or.inr ⟨fr :: frs, s, message, o, hr.cons hfr ht, hs, hfault, hrun⟩
  · rw [hs, passKeeps_protocolError]
    exact Or.inr ⟨[], _, message, o, Reaches.refl _, hlt, hfault, rfl⟩

/-- The walker goes through every structure that does not end it. -/
theorem walkLoop_run_of_reaches {o s : Nat} {frs : List Frame} (h : Reaches buf stop o frs s)
    (hs : s < stop) (acc : List RawStructure) :
    (walkLoop buf stop hstop).run ⟨o, acc⟩ =
      (walkLoop buf stop hstop).run ⟨s, acc ++ frs.map (Frame.decode buf)⟩ := by
  obtain ⟨htile, htype⟩ := h
  induction htile generalizing acc with
  | nil o => simp
  | @cons o m s fr frs hfr htile ih =>
      have hms := htile.le FrameAt.lt
      have hbody := walkPass_of_frameAt hstop hfr acc
      rw [if_neg (htype fr (by simp))] at hbody
      rw [Loop.run_of_next (L := walkLoop buf stop hstop) hbody,
        ih hs _ fun g hg => htype g (by simp [hg])]
      simp

/-- A fault that is reached is what the walker reports. -/
theorem walkLoop_run_of_fault {o s off : Nat} {frs : List Frame} {message : String}
    (h : Reaches buf stop o frs s) (hs : s < stop) (hfault : Fault buf stop s message off)
    (acc : List RawStructure) :
    (walkLoop buf stop hstop).run ⟨o, acc⟩ = protocolError message off := by
  rw [walkLoop_run_of_reaches hstop h hs acc]
  exact Loop.run_of_error (L := walkLoop buf stop hstop) (walkPass_of_fault hstop hs hfault _)

/-- What is accepted is what the walker returns. -/
theorem walkLoop_run_of_accepts {o e : Nat} {frs : List Frame} (h : Accepts buf stop o frs e)
    (acc : List RawStructure) :
    (walkLoop buf stop hstop).run ⟨o, acc⟩ = .ok (acc ++ frs.map (Frame.decode buf)) := by
  induction h generalizing acc with
  | @atEnd o hle =>
      simpa using Loop.run_of_done (L := walkLoop buf stop hstop) (walkPass_of_le buf hle acc)
  | @endOfTable o o' fr hfr ht =>
      have hbody := walkPass_of_frameAt hstop hfr acc
      rw [if_pos ht] at hbody
      simpa using Loop.run_of_done (L := walkLoop buf stop hstop) hbody
  | @step o o' e fr frs hfr ht ha ih =>
      have hbody := walkPass_of_frameAt hstop hfr acc
      rw [if_neg ht] at hbody
      rw [Loop.run_of_next (L := walkLoop buf stop hstop) hbody, ih]
      simp

end

/-! ## `_walk_structures` -/

/-- The walker returns exactly what is accepted from the start of the table. -/
theorem walkStructures_ok_iff {buf : Bytes} {n : Nat} {rs : List RawStructure} :
    walkStructures buf n = .ok rs ↔
      ∃ frs e, Accepts buf (tableEnd buf n) 0 frs e ∧ rs = frs.map (Frame.decode buf) := by
  have hstop := tableEnd_le buf n
  constructor
  · intro h
    rcases walkLoop_run hstop ⟨0, []⟩ with ⟨frs, e, ha, hrun⟩ | ⟨frs, s, message, o, -, -, -, hrun⟩
    · have := h.symm.trans hrun
      exact ⟨frs, e, ha, by simpa using this⟩
    · have := h.symm.trans hrun
      simp at this
  · rintro ⟨frs, e, ha, rfl⟩
    simpa [walkStructures] using walkLoop_run_of_accepts hstop ha []

/-- The walker raises exactly at a fault it has reached. -/
theorem walkStructures_error_iff {buf : Bytes} {n o : Nat} {message : String} :
    walkStructures buf n = protocolError message o ↔
      ∃ frs s, Reaches buf (tableEnd buf n) 0 frs s ∧ s < tableEnd buf n ∧
        Fault buf (tableEnd buf n) s message o := by
  have hstop := tableEnd_le buf n
  constructor
  · intro h
    rcases walkLoop_run hstop ⟨0, []⟩ with
      ⟨frs, e, -, hrun⟩ | ⟨frs, s, message', o', hr, hs, hfault, hrun⟩
    · have := h.symm.trans hrun
      simp at this
    · have := h.symm.trans hrun
      obtain ⟨rfl, rfl⟩ : message = message' ∧ o = o' := by simpa using this
      exact ⟨frs, s, hr, hs, hfault⟩
  · rintro ⟨frs, s, hr, hs, hfault⟩
    exact walkLoop_run_of_fault hstop hr hs hfault []

/-- The walker accepts or raises `DMIProtocolError`. -/
theorem walkStructures_outcome (buf : Bytes) (n : Nat) :
    (∃ rs, walkStructures buf n = .ok rs) ∨
      ∃ message o, walkStructures buf n = protocolError message o := by
  rcases walkLoop_run (tableEnd_le buf n) ⟨0, []⟩ with
    ⟨frs, e, -, hrun⟩ | ⟨frs, s, message, o, -, -, -, hrun⟩
  · exact Or.inl ⟨_, hrun⟩
  · exact Or.inr ⟨message, o, hrun⟩

end TruenasPydmi
