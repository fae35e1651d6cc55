/-
  Walk/Frame.lean --- where a structure lies in a table, and what one pass of the
  walker does there.

  A `Frame` holds the three positions that delimit a structure: its start, its
  length byte, and the NUL at which its string set closes.  `FrameAt` says that a
  frame fits a table; it mentions neither the loops nor the strings.  What the
  structure says is then a function of the frame (`Frame.decode`), so the
  boundaries of two tables can be compared without comparing their contents.

  `Fault` lists the ways a position can fail to start a structure, in the order
  in which the walker tests them.  A position starts a structure or has a fault
  (`frameAt_or_fault`); `walkStructure_of_frameAt` and `walkStructure_of_fault` say
  what a pass of the walker does in either case.
-/
import TruenasPydmi.Parser

set_option autoImplicit false

namespace TruenasPydmi

open TruenasPydmi.Foundation TruenasPydmi.Python

/-- The boundaries of a structure. -/
structure Frame where
  /-- where the header starts -/
  start : Nat
  /-- the length byte: header and formatted area together -/
  length : Nat
  /-- the NUL that is doubled at the end of the string set -/
  term : Nat
  deriving DecidableEq, Repr

namespace Frame

/-- One past the formatted area; the string set starts there. -/
def formattedEnd (fr : Frame) : Nat := fr.start + fr.length

/-- Where the next structure starts. -/
def next (fr : Frame) : Nat := fr.term + 2

/-- The type byte. -/
def type (buf : Bytes) (fr : Frame) : Nat := fromLE (slice buf fr.start (fr.start + 1))

/-- What a frame says, in the table it lies in. -/
def decode (buf : Bytes) (fr : Frame) : RawStructure where
  type := fr.type buf
  handle := fromLE (slice buf (fr.start + 2) (fr.start + 4))
  formatted := slice buf (fr.start + 4) fr.formattedEnd
  strings := stringSet buf fr.formattedEnd fr.term

/-- The frame fits a table whose declared end is `stop`.  Only the formatted
area is held against the declared end. -/
structure Fits (buf : Bytes) (stop : Nat) (fr : Frame) : Prop where
  lengthByte : (buf[fr.start + 1]?).map UInt8.toNat = some fr.length
  four_le : 4 ≤ fr.length
  le_stop : fr.formattedEnd ≤ stop
  closes : Closes 0 buf fr.formattedEnd fr.term

end Frame

/-- The frame `fr` fits the table and fills the positions from `o` up to `o'`. -/
def FrameAt (buf : Bytes) (stop o : Nat) (fr : Frame) (o' : Nat) : Prop :=
  fr.start = o ∧ fr.Fits buf stop ∧ fr.next = o'

namespace FrameAt

variable {buf buf' : Bytes} {stop stop' o o' j : Nat} {fr : Frame}

theorem start_eq (h : FrameAt buf stop o fr o') : fr.start = o := h.1

theorem fits (h : FrameAt buf stop o fr o') : fr.Fits buf stop := h.2.1

theorem next_eq (h : FrameAt buf stop o fr o') : fr.next = o' := h.2.2

theorem formattedEnd_eq (h : FrameAt buf stop o fr o') : fr.formattedEnd = o + fr.length := by
  rw [Frame.formattedEnd, h.start_eq]

theorem header_le (h : FrameAt buf stop o fr o') : o + 4 ≤ stop := by
  have h4 := h.fits.four_le
  have hstop := h.fits.le_stop
  rw [h.formattedEnd_eq] at hstop
  omega

theorem formattedEnd_add_two_le (h : FrameAt buf stop o fr o') : fr.formattedEnd + 2 ≤ o' := by
  have := h.fits.closes.le
  rw [← h.next_eq, Frame.next]
  omega

theorem lt (h : FrameAt buf stop o fr o') : o < o' := by
  have := h.formattedEnd_add_two_le
  rw [h.formattedEnd_eq] at this
  omega

theorem le_length (h : FrameAt buf stop o fr o') : o' ≤ buf.length := by
  have := h.fits.closes.lt_length
  rw [← h.next_eq, Frame.next]
  omega

/-- The byte behind the type is the length of the structure. -/
theorem exists_lengthByte (h : FrameAt buf stop o fr o') :
    ∃ L : UInt8, buf[o + 1]? = some L ∧ L.toNat = fr.length := by
  have hlength := h.fits.lengthByte
  rw [h.start_eq] at hlength
  exact Option.map_eq_some_iff.mp hlength

theorem toNat_lengthByte (h : FrameAt buf stop o fr o') {L : UInt8} (hL : buf[o + 1]? = some L) :
    L.toNat = fr.length := by
  obtain ⟨L', hL', hlength⟩ := h.exists_lengthByte
  obtain rfl : L = L' := Option.some.inj (hL.symm.trans hL')
  exact hlength

theorem mono (h : FrameAt buf stop o fr o') (hstop : fr.formattedEnd ≤ stop') :
    FrameAt buf stop' o fr o' :=
  ⟨h.start_eq, ⟨h.fits.lengthByte, h.fits.four_le, hstop, h.fits.closes⟩, h.next_eq⟩

/-- Boundaries depend on the length byte and on where the NULs of the string set
stand, and on nothing else: not on what the structure says, and not on where it
stands. -/
theorem of_boundaries (h : FrameAt buf stop o fr o') (hlength : buf'[j + 1]? = buf[o + 1]?)
    (hnul : ∀ k, fr.length ≤ k → k < o' - o → (buf'[j + k]? = some 0 ↔ buf[o + k]? = some 0))
    (hstop : j + fr.length ≤ stop') :
    FrameAt buf' stop' j ⟨j, fr.length, j + (fr.term - o)⟩ (j + (o' - o)) := by
  have hfe := h.formattedEnd_eq
  have hle := h.fits.closes.le
  have hnext := h.next_eq
  rw [Frame.next] at hnext
  have hcloses : Closes 0 buf' (j + fr.length) (j + fr.length + (fr.term - fr.formattedEnd)) := by
    refine h.fits.closes.transport fun k hk => ?_
    rw [hfe, Nat.add_assoc, Nat.add_assoc]
    exact hnul (fr.length + k) (Nat.le_add_right _ _) (by omega)
  refine ⟨rfl, ⟨?_, h.fits.four_le, hstop, ?_⟩, ?_⟩
  · rw [hlength, ← h.start_eq, h.fits.lengthByte]
  · rw [show j + (fr.term - o) = j + fr.length + (fr.term - fr.formattedEnd) by omega]
    exact hcloses
  · simp only [Frame.next]
    omega

/-- A frame at `o` is given by its length byte and its closing NUL. -/
theorem eta (h : FrameAt buf stop o fr o') :
    (⟨o, fr.length, o + (fr.term - o)⟩ : Frame) = fr := by
  have hfe := h.formattedEnd_eq
  have hle := h.fits.closes.le
  obtain ⟨start, length, term⟩ := fr
  obtain ⟨rfl, -, -⟩ := h
  simp only [Frame.mk.injEq, true_and]
  simp only at hfe hle
  omega

/-- A structure decodes the same wherever its bytes stand. -/
theorem transport (h : FrameAt buf stop o fr o') (hagree : Agree buf' j buf o (o' - o))
    (hstop : j + fr.length ≤ stop') :
    FrameAt buf' stop' j ⟨j, fr.length, j + (fr.term - o)⟩ (j + (o' - o)) ∧
      Frame.decode buf' ⟨j, fr.length, j + (fr.term - o)⟩ = fr.decode buf := by
  have hfe := h.formattedEnd_eq
  have hle := h.fits.closes.le
  have h4 := h.fits.four_le
  have hnext := h.next_eq
  rw [Frame.next] at hnext
  refine ⟨h.of_boundaries (hagree 1 (by omega)) (fun k _ hk => by rw [hagree k hk]) hstop, ?_⟩
  have hslice : ∀ a b, b ≤ o' - o → slice buf' (j + a) (j + b) = slice buf (o + a) (o + b) :=
    fun a b hb => hagree.slice_eq hb
  have hstrings : stringSet buf' (j + fr.length) (j + (fr.term - o)) =
      stringSet buf (o + fr.length) (o + (fr.term - o)) := by
    unfold stringSet segments
    rw [hslice _ _ (by omega)]
    by_cases heq : fr.term - o = fr.length <;> simp [heq]
  rw [show o + (fr.term - o) = fr.term by omega] at hstrings
  have htype := hslice 0 1 (by omega)
  have hhandle := hslice 2 4 (by omega)
  have hformatted := hslice 4 fr.length (by omega)
  simp only [Nat.add_zero] at htype
  simp only [Frame.decode, Frame.type, Frame.formattedEnd, h.start_eq, htype, hhandle,
    hformatted, hstrings]

/-- A structure decodes the same in any table that carries its bytes at the same
place. -/
theorem congr (h : FrameAt buf stop o fr o') (hagree : Agree buf' o buf o (o' - o))
    (hstop : fr.formattedEnd ≤ stop') :
    FrameAt buf' stop' o fr o' ∧ fr.decode buf' = fr.decode buf := by
  rw [h.formattedEnd_eq] at hstop
  have := h.transport hagree hstop
  rwa [h.eta, Nat.add_sub_cancel' (Nat.le_of_lt h.lt)] at this

/-- The header of a structure, byte by byte. -/
theorem header (h : FrameAt buf stop o fr o') :
    ∃ type L lo hi : UInt8,
      (buf[o]? = some type ∧ buf[o + 1]? = some L ∧ buf[o + 2]? = some lo ∧
        buf[o + 3]? = some hi) ∧
      L.toNat = fr.length ∧ (fr.decode buf).type = type.toNat ∧
      (fr.decode buf).handle = lo.toNat + 256 * hi.toNat := by
  have hfe := h.formattedEnd_add_two_le
  have hlen := h.le_length
  have hfour := h.fits.four_le
  rw [h.formattedEnd_eq] at hfe
  have hget : ∀ i, i < 4 → buf[o + i]? = some (buf.getD (o + i) 0) :=
    fun i hi => getElem?_eq_some_getD 0 (by omega)
  have htype : buf[o]? = some (buf.getD o 0) := hget 0 (by omega)
  have hlength := h.toNat_lengthByte (hget 1 (by omega))
  refine ⟨_, _, _, _, ⟨htype, hget 1 (by omega), hget 2 (by omega), hget 3 (by omega)⟩,
    hlength, ?_, ?_⟩
  · rw [Frame.decode, Frame.type, h.start_eq]
    exact fromLE_slice_one htype
  · rw [Frame.decode, h.start_eq]
    exact fromLE_slice_two (hget 2 (by omega)) (hget 3 (by omega))

theorem length_formatted (h : FrameAt buf stop o fr o') :
    (fr.decode buf).formatted.length = fr.length - 4 := by
  have hfe := h.formattedEnd_add_two_le
  have hlen := h.le_length
  rw [Frame.decode, length_slice_of_le (by omega), h.formattedEnd_eq, h.start_eq]
  omega

end FrameAt

/-! ## Faults -/

/-- Position `s` starts no structure of a table that ends at `stop`: the message
and the offset the walker reports.  A case presumes that the ones before it do
not hold. -/
inductive Fault (buf : Bytes) (stop s : Nat) : String → Nat → Prop where
  | header : stop < s + 4 → Fault buf stop s "truncated structure header" s
  | length {L : UInt8} : s + 4 ≤ stop → buf[s + 1]? = some L → L.toNat < 4 →
      Fault buf stop s ("structure length " ++ toString L.toNat ++ " < 4") s
  | formatted {L : UInt8} : s + 4 ≤ stop → buf[s + 1]? = some L → 4 ≤ L.toNat →
      stop < s + L.toNat → Fault buf stop s "formatted area extends past table end" s
  | unterminated {L : UInt8} {o : Nat} : s + 4 ≤ stop → buf[s + 1]? = some L → 4 ≤ L.toNat →
      s + L.toNat ≤ stop → (∀ p, ¬ Closes 0 buf (s + L.toNat) p) →
      PastLast 0 buf (s + L.toNat) o → Fault buf stop s (unterminatedMessage buf o) o

namespace Fault

variable {buf : Bytes} {stop s o : Nat} {message : String}

/-- The offset reported lies in the data, at or after the faulty position. -/
theorem bounds (h : Fault buf stop s message o) (hs : s < stop) (hstop : stop ≤ buf.length) :
    s ≤ o ∧ o ≤ buf.length := by
  cases h with
  | header => omega
  | length => omega
  | formatted => omega
  | unterminated _ _ _ _ _ hpast =>
      have := hpast.bounds (by omega)
      omega

end Fault

/-- A position starts a structure or is faulty. -/
theorem frameAt_or_fault {buf : Bytes} {stop : Nat} (hstop : stop ≤ buf.length) (s : Nat) :
    (∃ fr o', FrameAt buf stop s fr o') ∨ ∃ message o, Fault buf stop s message o := by
  by_cases hheader : s + 4 ≤ stop
  · obtain ⟨L, hL⟩ : ∃ L, buf[s + 1]? = some L := ⟨_, List.getElem?_eq_getElem (by omega)⟩
    by_cases hfour : L.toNat < 4
    · exact Or.inr ⟨_, _, .length hheader hL hfour⟩
    by_cases hfits : s + L.toNat > stop
    · exact Or.inr ⟨_, _, .formatted hheader hL (by omega) hfits⟩
    by_cases hclose : ∃ p, Closes 0 buf (s + L.toNat) p
    · obtain ⟨p, hp⟩ := hclose
      have hlength : (buf[s + 1]?).map UInt8.toNat = some L.toNat := by rw [hL, Option.map_some]
      exact Or.inl ⟨⟨s, L.toNat, p⟩, p + 2, rfl,
        ⟨hlength, Nat.le_of_not_lt hfour, Nat.le_of_not_lt hfits, hp⟩, rfl⟩
    · have hnone : ∀ p, ¬ Closes 0 buf (s + L.toNat) p := fun p hp => hclose ⟨p, hp⟩
      obtain ⟨o, hpast, -⟩ := walkStrings_of_not_closes hnone (by omega)
      exact Or.inr ⟨_, o, .unterminated hheader hL (by omega) (by omega) hnone hpast⟩
  · exact Or.inr ⟨_, _, .header (by omega)⟩

/-! ## One pass of the walker -/

/-- The walker on a structure with a complete header. -/
theorem walkStructure_eq {buf : Bytes} {stop s : Nat} {L : UInt8} (hstop : stop ≤ buf.length)
    (hheader : s + 4 ≤ stop) (hL : buf[s + 1]? = some L) :
    walkStructure buf stop s =
      if L.toNat < 4 then
        protocolError ("structure length " ++ toString L.toNat ++ " < 4") s
      else if s + L.toNat > stop then
        protocolError "formatted area extends past table end" s
      else do
        let (cursor, strings) ← walkStrings buf (s + L.toNat)
        return ({ type := fromLE (slice buf s (s + 1))
                  handle := fromLE (slice buf (s + 2) (s + 4))
                  formatted := slice buf (s + 4) (s + L.toNat)
                  strings := strings }, cursor) := by
  have hlength := fromLE_slice_one hL
  rw [walkStructure, if_neg (by omega), unpackFromBBH_of_le (by omega)]
  simp only [ok_bind, liftM_ok, Nat.add_assoc, Nat.reduceAdd] at hlength ⊢
  rw [hlength]

/-- A structure is decoded. -/
theorem walkStructure_of_frameAt {buf : Bytes} {stop s o' : Nat} {fr : Frame}
    (hstop : stop ≤ buf.length) (hfr : FrameAt buf stop s fr o') :
    walkStructure buf stop s = .ok (fr.decode buf, o') := by
  obtain ⟨L, hL, hlength⟩ := hfr.exists_lengthByte
  have hfour := hfr.fits.four_le
  have hfits := hfr.fits.le_stop
  have hcloses := hfr.fits.closes
  rw [hfr.formattedEnd_eq, ← hlength] at hfits hcloses
  rw [walkStructure_eq hstop hfr.header_le hL, if_neg (by omega), if_neg (by omega),
    walkStrings_of_closes hcloses, ok_bind, ← hfr.next_eq, Frame.decode, Frame.type,
    hfr.formattedEnd_eq, hfr.start_eq, hlength]
  rfl

/-- A fault is reported. -/
theorem walkStructure_of_fault {buf : Bytes} {stop s o : Nat} {message : String}
    (hstop : stop ≤ buf.length) (hfault : Fault buf stop s message o) :
    walkStructure buf stop s = protocolError message o := by
  cases hfault with
  | header hlt => exact if_pos hlt
  | length hheader hL hfour => rw [walkStructure_eq hstop hheader hL, if_pos hfour]
  | formatted hheader hL hfour hfits =>
      rw [walkStructure_eq hstop hheader hL, if_neg (by omega), if_pos hfits]
  | unterminated hheader hL hfour hfits hnone hpast =>
      obtain ⟨o', hpast', hwalk⟩ := walkStrings_of_not_closes hnone (by omega)
      obtain rfl := hpast.unique hpast'
      rw [walkStructure_eq hstop hheader hL, if_neg (by omega), if_neg (by omega), hwalk,
        protocolError_bind]

end TruenasPydmi
