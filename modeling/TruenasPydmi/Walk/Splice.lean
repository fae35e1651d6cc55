/-
  Walk/Splice.lean --- tables that are joined and tables that are cut.

  A structure and a fault depend on the bytes they are read from and not on where
  these stand, so a table behind another decodes to what it decodes to alone
  (`walkStructures_append`).  In the other direction a table that is cut short is
  accepted exactly when the cut falls on a boundary; a cut inside a structure is
  reported, at that structure and with the part of it that is missing
  (`walkStructures_take`).  No table is mistaken for a shorter one.
-/
import TruenasPydmi.Walk.Grammar

set_option autoImplicit false

namespace TruenasPydmi

open TruenasPydmi.Foundation TruenasPydmi.Python

/-! ## Joining -/

section

variable {a b : Bytes} {stop s o o' e : Nat} {fr : Frame} {frs : List Frame} {message : String}

theorem agree_append_right (a b : Bytes) (s n : Nat) :
    Agree (a ++ b) (a.length + s) b s n := by
  intro k _
  rw [Nat.add_assoc, List.getElem?_append_right (Nat.le_add_right _ _), Nat.add_sub_cancel_left]

/-- The frame of a structure that stands further along by `n`. -/
def Frame.shift (n : Nat) (fr : Frame) : Frame := ⟨n + fr.start, fr.length, n + fr.term⟩

/-- A structure stands behind another table as it stands alone. -/
theorem FrameAt.append_right (a : Bytes) (h : FrameAt b stop o fr o') :
    FrameAt (a ++ b) (a.length + stop) (a.length + o) (fr.shift a.length) (a.length + o') ∧
      (fr.shift a.length).decode (a ++ b) = fr.decode b := by
  have hfe := h.formattedEnd_eq
  have hstop := h.fits.le_stop
  have hle := h.fits.closes.le
  have hlt := h.lt
  have hshift : a.length + o + fr.length ≤ a.length + stop := by omega
  have := h.transport (agree_append_right a b o (o' - o)) hshift
  rw [show a.length + o + (o' - o) = a.length + o' by omega,
    show (⟨a.length + o, fr.length, a.length + o + (fr.term - o)⟩ : Frame) = fr.shift a.length by
      rw [Frame.shift, h.start_eq, Frame.mk.injEq]
      exact ⟨rfl, rfl, by omega⟩] at this
  exact this

theorem Accepts.append_right (a : Bytes) (h : Accepts b stop o frs e) :
    Accepts (a ++ b) (a.length + stop) (a.length + o) (frs.map (Frame.shift a.length))
        (a.length + e) ∧
      (frs.map (Frame.shift a.length)).map (Frame.decode (a ++ b)) =
        frs.map (Frame.decode b) := by
  have htype : ∀ {o o' : Nat} {fr : Frame}, FrameAt b stop o fr o' →
      (fr.shift a.length).type (a ++ b) = fr.type b :=
    fun hfr => congrArg RawStructure.type (hfr.append_right a).2
  induction h with
  | atEnd hle => exact ⟨.atEnd (Nat.add_le_add_left hle _), rfl⟩
  | endOfTable hfr ht =>
      obtain ⟨hfr', hdecode⟩ := hfr.append_right a
      exact ⟨.endOfTable hfr' ((htype hfr).trans ht), by simp [hdecode]⟩
  | step hfr ht _ ih =>
      obtain ⟨hfr', hdecode⟩ := hfr.append_right a
      refine ⟨.step hfr' ((htype hfr).trans_ne ht) ih.1, ?_⟩
      rw [List.map_cons, List.map_cons, List.map_cons, hdecode, ih.2]

theorem Reaches.append_right (a : Bytes) (h : Reaches b stop o frs s) :
    Reaches (a ++ b) (a.length + stop) (a.length + o) (frs.map (Frame.shift a.length))
      (a.length + s) := by
  obtain ⟨htile, htype⟩ := h
  induction htile with
  | nil o => exact .refl _
  | cons hfr _ ih =>
      rw [List.forall_mem_cons] at htype
      obtain ⟨hfr', hdecode⟩ := hfr.append_right a
      exact (ih htype.2).cons hfr' ((congrArg RawStructure.type hdecode).trans_ne htype.1)

/-- A fault stays the same fault behind another table. -/
theorem Fault.append_right (a : Bytes) (h : Fault b stop s message o) :
    Fault (a ++ b) (a.length + stop) (a.length + s) message (a.length + o) := by
  have hget : ∀ m, (a ++ b)[a.length + m]? = b[m]? := fun m => by
    rw [List.getElem?_append_right (Nat.le_add_right _ _), Nat.add_sub_cancel_left]
  cases h with
  | header hlt => exact .header (by omega)
  | length hheader hL hfour => exact .length (by omega) (by rw [Nat.add_assoc, hget, hL]) hfour
  | formatted hheader hL hfour hfits =>
      exact .formatted (by omega) (by rw [Nat.add_assoc, hget, hL]) hfour (by omega)
  | @unterminated L o hheader hL hfour hfits hnone hpast =>
      have hmessage : unterminatedMessage b o = unterminatedMessage (a ++ b) (a.length + o) := by
        rw [unterminatedMessage, unterminatedMessage, List.length_append]
        simp only [Nat.add_lt_add_iff_left]
      rw [hmessage]
      refine .unterminated (by omega) (by rw [Nat.add_assoc, hget, hL]) hfour (by omega) ?_ ?_
      · intro p hp
        have hle := hp.le
        refine hnone (s + L.toNat + (p - (a.length + s + L.toNat))) (hp.transport fun k _ => ?_)
        rw [show a.length + s + L.toNat + k = a.length + (s + L.toNat + k) by omega, hget]
      · rw [Nat.add_assoc]
        exact hpast.append_left a

end

/-- A run that goes on from where another came to. -/
theorem Reaches.trans {buf : Bytes} {stop o m s : Nat} {frs gs : List Frame}
    (h : Reaches buf stop o frs m) (h' : Reaches buf stop m gs s) :
    Reaches buf stop o (frs ++ gs) s :=
  ⟨h.1.append h'.1, List.forall_mem_append.mpr ⟨h.2, h'.2⟩⟩

/-- The end of a table that stands behind another, by its own declared length. -/
theorem tableEnd_append (a b : Bytes) (n : Nat) :
    tableEnd (a ++ b) (if n = 0 then 0 else a.length + n) = a.length + tableEnd b n := by
  rcases Nat.eq_zero_or_pos n with rfl | hn
  · rw [if_pos rfl, tableEnd_eq_length (Or.inl rfl), tableEnd_eq_length (Or.inl rfl),
      List.length_append]
  · rw [if_neg (Nat.ne_of_gt hn), tableEnd, tableEnd, if_pos hn, if_pos (by omega),
      List.length_append, Nat.add_min_add_left]

/-- A table without an End-of-Table is read to its end. -/
theorem exists_reaches_of_walk {a : Bytes} {ra : List RawStructure}
    (h : walkStructures a 0 = .ok ra) (ht : ∀ r ∈ ra, r.type ≠ 127) :
    ∃ frs, Reaches a a.length 0 frs a.length ∧ ra = frs.map (Frame.decode a) := by
  obtain ⟨frs, e, ha, rfl⟩ := walkStructures_ok_iff.mp h
  rw [tableEnd_eq_length (Or.inl rfl)] at ha
  have hle := ha.le_length (Nat.zero_le _)
  have htype : ∀ fr ∈ frs, fr.type a ≠ 127 := fun fr hfr =>
    ht (fr.decode a) (List.mem_map_of_mem hfr)
  obtain ⟨htile, -, hend⟩ := accepts_iff_tiling.mp ha
  obtain rfl : e = a.length := by
    rcases hend with ⟨fr, hfr, h127⟩ | hend
    · exact absurd h127 (htype fr (List.mem_of_getLast? hfr))
    · omega
  exact ⟨frs, ⟨htile, htype⟩, rfl⟩

/-- Behind a table that holds no End-of-Table, another one is read as it would be
read alone: its structures follow those of the first, and its faults are reported
with the same message, further along by the length of the first. -/
theorem walkStructures_append (a b : Bytes) (n : Nat) (ra : List RawStructure)
    (h : walkStructures a 0 = .ok ra) (ht : ∀ r ∈ ra, r.type ≠ 127) :
    (∀ rb, walkStructures b n = .ok rb →
      walkStructures (a ++ b) (if n = 0 then 0 else a.length + n) = .ok (ra ++ rb)) ∧
    ∀ message o, walkStructures b n = protocolError message o →
      walkStructures (a ++ b) (if n = 0 then 0 else a.length + n) =
        protocolError message (a.length + o) := by
  obtain ⟨frs, hr, rfl⟩ := exists_reaches_of_walk h ht
  have hagree : Agree (a ++ b) 0 a 0 (a.length - 0) := by
    intro k hk
    rw [Nat.zero_add, List.getElem?_append_left (by omega)]
  obtain ⟨hr', hdecode⟩ := hr.congr hagree
    (show a.length ≤ a.length + tableEnd b n from Nat.le_add_right _ _)
  refine ⟨fun rb hrb => ?_, fun message o hrb => ?_⟩
  · obtain ⟨gs, e, hb, rfl⟩ := walkStructures_ok_iff.mp hrb
    obtain ⟨hb', hmap⟩ := hb.append_right a
    rw [walkStructures_ok_iff, tableEnd_append]
    exact ⟨_, _, hr'.accepts hb', by rw [List.map_append, hdecode, hmap]⟩
  · obtain ⟨gs, s, hb, hs, hfault⟩ := walkStructures_error_iff.mp hrb
    rw [walkStructures_error_iff, tableEnd_append]
    refine ⟨frs ++ gs.map (Frame.shift a.length), a.length + s, ?_, by omega,
      hfault.append_right a⟩
    exact hr'.trans (hb.append_right a)

/-- A baseboard without strings behind a chassis without strings, and behind it the
header of a structure that is cut off. -/
theorem walkStructures_append_chassis :
    walkStructures [3, 4, 9, 0, 0, 0, 2, 4, 7, 0, 0, 0] 0 =
        .ok [⟨3, 9, [], []⟩, ⟨2, 7, [], []⟩] ∧
      walkStructures [3, 4, 9, 0, 0, 0, 2, 4] 0 = protocolError "truncated structure header" 6 :=
  ⟨(walkStructures_append [3, 4, 9, 0, 0, 0] [2, 4, 7, 0, 0, 0] 0 [⟨3, 9, [], []⟩] (by decide)
      (by simp)).1 [⟨2, 7, [], []⟩] (by decide),
    (walkStructures_append [3, 4, 9, 0, 0, 0] [2, 4] 0 [⟨3, 9, [], []⟩] (by decide)
      (by simp)).2 "truncated structure header" 0 (by decide)⟩

/-! ## Cutting -/

/-- The structures up to a boundary are read by a run to that boundary. -/
theorem StreamBoundaries.reaches {d : Bytes} {rs : List RawStructure} {o : Nat → Nat}
    (h : StreamBoundaries d rs o) {i : Nat} (hi : i < rs.length) :
    ∃ frs, Reaches d d.length 0 frs (o i) ∧ rs.take i = frs.map (Frame.decode d) := by
  have hlen : (rs.take i).length = i := List.length_take_of_le (Nat.le_of_lt hi)
  have htile : Tiling (StructureAt d) 0 (rs.take i) (o i) := by
    refine Tiling.iff_boundaries.mpr ⟨o, h.zero, by rw [hlen], fun j hj => ?_⟩
    rw [hlen] at hj
    rw [List.getElem_take]
    exact h.structureAt j (by omega)
  obtain ⟨frs, hframes, hrs⟩ := (Tiling.map_iff (structureAt_iff d)).mp htile
  refine ⟨frs, ⟨hframes, fun fr hfr => ?_⟩, hrs⟩
  have hmem : fr.decode d ∈ rs.take i := hrs ▸ List.mem_map_of_mem hfr
  obtain ⟨j, hj, hget⟩ := List.mem_iff_getElem.mp hmem
  rw [hlen] at hj
  rw [List.getElem_take] at hget
  have := h.type_ne j (by omega) (by omega)
  rw [hget] at this
  exact this

section

variable {d : Bytes} {o o' k : Nat} {fr : Frame}

/-- A cut inside a structure leaves a fault there. -/
theorem FrameAt.fault_take (h : FrameAt d d.length o fr o') (hk : k < o') :
    (k < o + 4 → Fault (d.take k) k o "truncated structure header" o) ∧
    (o + 4 ≤ k → k < o + fr.length →
      Fault (d.take k) k o "formatted area extends past table end" o) ∧
    (o + fr.length ≤ k → ∃ off, o + fr.length ≤ off ∧ off ≤ k ∧
      Fault (d.take k) k o (unterminatedMessage (d.take k) off) off) := by
  have hlen : (d.take k).length = k := List.length_take_of_le (by have := h.le_length; omega)
  have hfour := h.fits.four_le
  have hcloses := h.fits.closes
  have hnext := h.next_eq
  rw [h.formattedEnd_eq] at hcloses
  rw [Frame.next] at hnext
  obtain ⟨L, hL, hLlen⟩ := h.exists_lengthByte
  have hget : ∀ j, j < k → (d.take k)[j]? = d[j]? := fun j hj => by
    rw [List.getElem?_take, if_pos hj]
  refine ⟨fun hlt => .header hlt, fun hheader hlt => ?_, fun hfits => ?_⟩
  · exact .formatted hheader ((hget _ (by omega)).trans hL) (by omega) (by omega)
  · have hnone : ∀ p, ¬ Closes 0 (d.take k) (o + fr.length) p := by
      intro p hp
      have hplt := hp.lt_length
      rw [hlen] at hplt
      have hdoubled := hp.doubled
      have hle : fr.term ≤ p := by
        refine hcloses.2 ⟨hp.le, doubled_of_getElem? ?_ ?_⟩
        · rw [← hget p (by omega), hdoubled.2.1]
        · rw [← hget (p + 1) (by omega), hdoubled.2.2]
      omega
    obtain ⟨off, hpast, -⟩ := walkStrings_of_not_closes hnone (by omega)
    have hbounds := hpast.bounds (by omega)
    rw [← hLlen] at hnone hpast
    refine ⟨off, by omega, by omega, ?_⟩
    exact .unterminated (by omega) ((hget _ (by omega)).trans hL) (by omega) (by omega) hnone hpast

end

/-- What is accepted is accepted as well by a limit that leaves all of it. -/
theorem Accepts.limit {buf : Bytes} {stop k o e : Nat} {frs : List Frame}
    (h : Accepts buf stop o frs e) (he : e ≤ k) (hk : k ≤ stop) : Accepts buf k o frs e := by
  induction h with
  | atEnd hle => exact .atEnd (by omega)
  | endOfTable hfr ht =>
      have := hfr.formattedEnd_add_two_le
      exact .endOfTable (hfr.mono (by omega)) ht
  | step hfr ht ha ih =>
      have := hfr.formattedEnd_add_two_le
      have := ha.tiling.le FrameAt.lt
      exact .step (hfr.mono (by omega)) ht (ih he)

/-- A table that is cut short.  At a boundary it is accepted with the structures
before the boundary; inside a structure the walker raises, in the header, in the
formatted area or in the string set according to where the cut falls. -/
theorem walkStructures_take (d : Bytes) (rs : List RawStructure)
    (h : walkStructures d 0 = .ok rs) :
    ∃ o : Nat → Nat, StreamBoundaries d rs o ∧
      (∀ k, o rs.length ≤ k → walkStructures (d.take k) 0 = .ok rs) ∧
      ∀ (i : Nat) (hi : i < rs.length) (k : Nat),
        (k = o i → walkStructures (d.take k) 0 = .ok (rs.take i)) ∧
        (o i < k → k < o i + 4 →
          walkStructures (d.take k) 0 = protocolError "truncated structure header" (o i)) ∧
        (o i + 4 ≤ k → k < o i + 4 + rs[i].formatted.length →
          walkStructures (d.take k) 0 =
            protocolError "formatted area extends past table end" (o i)) ∧
        (o i + 4 + rs[i].formatted.length ≤ k → k < o (i + 1) →
          ∃ off, o i + 4 + rs[i].formatted.length ≤ off ∧ off ≤ k ∧
            walkStructures (d.take k) 0 =
              protocolError (unterminatedMessage (d.take k) off) off) := by
  obtain ⟨frs, e, ha, rfl⟩ := walkStructures_ok_iff.mp h
  rw [tableEnd_eq_length (Or.inl rfl)] at ha
  obtain ⟨o, hb, ho⟩ := (exists_boundaries_iff d _ e).mpr ⟨frs, ha, rfl⟩
  have hlen : ∀ {k}, k ≤ d.length → (d.take k).length = k := List.length_take_of_le
  refine ⟨o, hb, fun k hk => ?_, fun i hi k => ?_⟩
  · rw [ho] at hk
    rcases Nat.le_total d.length k with hle | hle
    · rw [List.take_of_length_le hle, h]
    · obtain ⟨ha', hdecode⟩ := (ha.limit hk hle).congr (agree_take d k (by omega)) hk
      rw [walkStructures_ok_iff, tableEnd_eq_length (Or.inl rfl), hlen hle]
      exact ⟨frs, e, ha', hdecode.symm⟩
  · obtain ⟨gs, hr, htake⟩ := hb.reaches hi
    obtain ⟨fr, hfr, hdecode⟩ := (structureAt_iff _ _ _ _).mp (hb.structureAt i hi)
    have hle := hfr.le_length
    have hlt := hfr.lt
    have hfour := hfr.fits.four_le
    have hformatted : o i + 4 + ((frs.map (Frame.decode d))[i]).formatted.length =
        o i + fr.length := by
      rw [hdecode, hfr.length_formatted]
      omega
    -- the structures before the one that is cut are read as before
    have hrun : ∀ {k}, o i ≤ k → k ≤ d.length → Reaches (d.take k) k 0 gs (o i) ∧
        gs.map (Frame.decode (d.take k)) = gs.map (Frame.decode d) :=
      fun hk _ => hr.congr (agree_take d _ (by omega)) hk
    have hraise : ∀ {k message off}, o i < k → k < o (i + 1) →
        Fault (d.take k) k (o i) message off →
          walkStructures (d.take k) 0 = protocolError message off := by
      intro k message off hk hk' hfault
      rw [walkStructures_error_iff, tableEnd_eq_length (Or.inl rfl), hlen (by omega)]
      exact ⟨gs, o i, (hrun (by omega) (by omega)).1, hk, hfault⟩
    have hfe := hfr.formattedEnd_add_two_le
    rw [hfr.formattedEnd_eq] at hfe
    refine ⟨fun hk => ?_, fun hk hk' => ?_, fun hk hk' => ?_, fun hk hk' => ?_⟩
    · subst hk
      obtain ⟨hr', hmap⟩ := hrun le_rfl (by omega)
      rw [walkStructures_ok_iff, tableEnd_eq_length (Or.inl rfl), hlen (by omega), htake]
      refine ⟨gs, o i, ?_, hmap.symm⟩
      simpa using hr'.accepts (.atEnd le_rfl)
    · exact hraise hk (by omega) ((hfr.fault_take (by omega)).1 hk')
    · rw [hformatted] at hk'
      exact hraise (by omega) (by omega) ((hfr.fault_take (by omega)).2.1 hk hk')
    · rw [hformatted] at hk
      obtain ⟨off, hoff, hoff', hfault⟩ := (hfr.fault_take hk').2.2 hk
      exact ⟨off, by omega, hoff', hraise (by omega) hk' hfault⟩

/-- The first three bytes of a chassis without strings. -/
theorem walkStructures_take_header :
    walkStructures [3, 4, 9] 0 = protocolError "truncated structure header" 0 := by
  obtain ⟨o, hb, -, hcut⟩ := walkStructures_take [3, 4, 9, 0, 0, 0] [⟨3, 9, [], []⟩] (by decide)
  have hheader := (hcut 0 (by simp) 3).2.1
  rw [hb.zero] at hheader
  exact hheader (by omega) (by omega)

end TruenasPydmi
