/-
  Foundation/Cells.lean --- records written as cells, and read at offsets.

  A writer lists the cells of a record in their order and never names an offset;
  a reader names the offset and the width.  `cellAt` finds the cell a reader is
  asking for, and `slice_image` says that its bytes are what the reader gets.

  A record that refers to its texts by number keeps those that are present in a
  table, the absent ones being number zero (`rank`).
-/
import Mathlib.Data.List.TakeDrop
import Mathlib.Data.Nat.Digits.Defs
import TruenasPydmi.Foundation.Overwrite
import TruenasPydmi.Foundation.Slice

set_option autoImplicit false

namespace TruenasPydmi.Foundation

/-! ## Numbers -/

/-- The `w` low bytes of a number, the lowest first. -/
def littleEndian : Nat → Nat → List UInt8
  | 0, _ => []
  | w + 1, n => UInt8.ofNat (n % 256) :: littleEndian w (n / 256)

@[simp] theorem length_littleEndian (w n : Nat) : (littleEndian w n).length = w := by
  induction w generalizing n with
  | zero => rfl
  | succ w ih => rw [littleEndian, List.length_cons, ih]

/-- A number that fits is what its bytes stand for. -/
theorem ofDigits_littleEndian {w n : Nat} (h : n < 256 ^ w) :
    Nat.ofDigits 256 ((littleEndian w n).map UInt8.toNat) = n := by
  induction w generalizing n with
  | zero =>
      have hzero : n = 0 := by simpa using h
      rw [hzero]
      rfl
  | succ w ih =>
      have hdiv : n / 256 < 256 ^ w := Nat.div_lt_of_lt_mul (by rwa [pow_succ'] at h)
      have hlow : (UInt8.ofNat (n % 256)).toNat = n % 256 :=
        UInt8.toNat_ofNat_of_lt' (Nat.mod_lt _ (by decide))
      rw [littleEndian, List.map_cons, Nat.ofDigits_cons, ih hdiv, hlow]
      exact Nat.mod_add_div n 256

/-! ## Cells -/

/-- What a record is written from. -/
inductive Cell where
  /-- a number in so many bytes -/
  | num (width n : Nat)
  /-- bytes, brought to a width -/
  | fixed (width : Nat) (b : List UInt8)
  /-- bytes as they are -/
  | bytes (b : List UInt8)

namespace Cell

def size : Cell → Nat
  | num width _ => width
  | fixed width _ => width
  | bytes b => b.length

/-- The bytes of a cell. -/
def image : Cell → List UInt8
  | num width n => littleEndian width n
  | fixed width b => b.takeD width 0
  | bytes b => b

@[simp] theorem length_image (c : Cell) : c.image.length = c.size := by
  cases c with
  | num width n => exact length_littleEndian width n
  | fixed width b => exact List.takeD_length width b 0
  | bytes b => rfl

theorem image_fixed {width : Nat} {b : List UInt8} (h : b.length = width) :
    (fixed width b).image = b := by
  rw [image, List.takeD_eq_take 0 h.ge, List.take_of_length_le h.le]

end Cell

/-- The bytes of a record. -/
def image (cells : List Cell) : List UInt8 := cells.flatMap Cell.image

/-- The cell that starts at an offset. -/
def cellAt : List Cell → Nat → Option Cell
  | [], _ => none
  | c :: cells, o =>
      if o = 0 then some c
      else if c.size ≤ o then cellAt cells (o - c.size)
      else none

/-- What is read at the offset of a cell is the cell. -/
theorem slice_image {cells : List Cell} {o : Nat} {c : Cell} (h : cellAt cells o = some c) :
    slice (image cells) o (o + c.size) = c.image ∧ o + c.size ≤ (image cells).length := by
  induction cells generalizing o with
  | nil => cases h
  | cons d cells ih =>
      have himage : image (d :: cells) = d.image ++ image cells := rfl
      rw [cellAt] at h
      split at h
      · rename_i hzero
        rw [Option.some.injEq] at h
        subst h hzero
        rw [himage, Nat.zero_add, slice_zero, List.length_append, Cell.length_image]
        refine ⟨?_, Nat.le_add_right _ _⟩
        rw [← Cell.length_image, List.take_left']
        rfl
      · split at h
        · rename_i hle
          obtain ⟨hslice, hlength⟩ := ih h
          rw [himage, List.length_append, Cell.length_image]
          refine ⟨?_, by omega⟩
          rw [← hslice, slice, slice, List.take_append, List.drop_append, Cell.length_image,
            List.take_of_length_le (by rw [Cell.length_image]; omega),
            List.drop_of_length_le (by rw [Cell.length_image]; exact hle), List.nil_append,
            Cell.length_image, show o + c.size - d.size = o - d.size + c.size by omega]
        · cases h

theorem length_image (cells : List Cell) :
    (image cells).length = (cells.map Cell.size).sum := by
  rw [image, List.length_flatMap]
  exact congrArg List.sum (List.map_congr_left fun c _ => c.length_image)

theorem image_append_cons (front back : List Cell) (c : Cell) :
    image (front ++ c :: back) = image front ++ c.image ++ image back := by
  rw [image, List.flatMap_append, List.flatMap_cons, ← List.append_assoc]
  rfl

/-- Writing over the bytes of a cell. -/
theorem overwrite_image (front back : List Cell) (width : Nat) (b : List UInt8) (v : UInt8) :
    overwrite (image (front ++ .fixed width b :: back)) ⟨(front.map Cell.size).sum, width, v⟩ =
      image (front ++ .fixed width (List.replicate width v) :: back) := by
  have hmid := overwrite_append_mid (image front) (Cell.fixed width b).image (image back) v
  rw [length_image, Cell.length_image] at hmid
  rw [image_append_cons, image_append_cons, Cell.image_fixed List.length_replicate]
  exact hmid

/-! ## Numbered texts -/

section

variable {α : Type*} (p : α → Bool)

/-- The number of the item at a position, counting the items that satisfy `p` from
one; zero for an item that does not. -/
def rank : List α → Nat → Nat
  | [], _ => 0
  | a :: _, 0 => if p a then 1 else 0
  | a :: as, i + 1 => if rank as i = 0 then 0 else rank as i + if p a then 1 else 0

theorem rank_le_length (as : List α) (i : Nat) : rank p as i ≤ as.length := by
  induction as generalizing i with
  | nil => exact le_rfl
  | cons a as ih =>
      cases i with
      | zero => rw [rank, List.length_cons]; split <;> omega
      | succ i =>
          have := ih i
          rw [rank, List.length_cons]
          split
          · exact Nat.zero_le _
          · split <;> omega

theorem rank_eq_zero {as : List α} {i : Nat} {a : α} (h : as[i]? = some a) (ha : p a = false) :
    rank p as i = 0 := by
  induction as generalizing i with
  | nil => rfl
  | cons b as ih =>
      cases i with
      | zero =>
          rw [List.getElem?_cons_zero, Option.some.injEq] at h
          rw [rank, h, ha]
          rfl
      | succ i => rw [rank, if_pos (ih h)]

/-- An item that is present is found in the table under its number. -/
theorem getElem?_filter_rank {as : List α} {i : Nat} {a : α} (h : as[i]? = some a)
    (ha : p a = true) : 0 < rank p as i ∧ (as.filter p)[rank p as i - 1]? = some a := by
  induction as generalizing i with
  | nil => cases h
  | cons b as ih =>
      cases i with
      | zero =>
          rw [List.getElem?_cons_zero, Option.some.injEq] at h
          subst h
          rw [rank, if_pos ha, List.filter_cons_of_pos ha]
          exact ⟨Nat.one_pos, rfl⟩
      | succ i =>
          obtain ⟨hpos, hget⟩ := ih h
          rw [rank, if_neg (by omega)]
          by_cases hb : p b = true
          · rw [if_pos hb, List.filter_cons_of_pos hb, Nat.add_sub_cancel,
              show rank p as i = rank p as i - 1 + 1 by omega, List.getElem?_cons_succ]
            exact ⟨by omega, hget⟩
          · rw [if_neg hb, List.filter_cons_of_neg hb]
            exact ⟨hpos, hget⟩

/-- The first item is number one, if it is present. -/
theorem rank_head {b : α} {as : List α} (h : 0 < rank p (b :: as) 0) :
    p b = true ∧ rank p (b :: as) 0 = 1 := by
  rw [rank] at h ⊢
  split at h
  · rename_i hb
    exact ⟨hb, if_pos hb⟩
  · exact absurd h (Nat.lt_irrefl 0)

/-- The items behind it are counted on from it. -/
theorem rank_tail {b : α} {as : List α} {k : Nat} (h : 0 < rank p (b :: as) (k + 1)) :
    0 < rank p as k ∧ rank p (b :: as) (k + 1) = rank p as k + if p b then 1 else 0 := by
  rw [rank] at h ⊢
  split at h
  · exact absurd h (Nat.lt_irrefl 0)
  · rename_i hne
    exact ⟨Nat.pos_of_ne_zero hne, if_neg hne⟩

theorem rank_succ_ne_one {b : α} {as : List α} {k : Nat} (hb : p b = true) :
    rank p (b :: as) (k + 1) ≠ 1 := by
  intro hone
  obtain ⟨hpos, hrank⟩ := rank_tail p (show 0 < rank p (b :: as) (k + 1) by omega)
  rw [if_pos hb] at hrank
  omega

/-- Two items that are present have different numbers. -/
theorem rank_inj {as : List α} {i j : Nat} (h : 0 < rank p as i)
    (heq : rank p as i = rank p as j) : i = j := by
  induction as generalizing i j with
  | nil => exact absurd h (Nat.lt_irrefl 0)
  | cons b as ih =>
      have h' := heq ▸ h
      cases i with
      | zero =>
          cases j with
          | zero => rfl
          | succ j =>
              obtain ⟨hb, hone⟩ := rank_head p h
              exact absurd (heq.symm.trans hone) (rank_succ_ne_one p hb)
      | succ i =>
          cases j with
          | zero =>
              obtain ⟨hb, hone⟩ := rank_head p h'
              exact absurd (heq.trans hone) (rank_succ_ne_one p hb)
          | succ j =>
              obtain ⟨hi, hranki⟩ := rank_tail p h
              obtain ⟨-, hrankj⟩ := rank_tail p h'
              exact congrArg _ (ih hi (by omega))

section

variable {p} {f : Nat → α → α}

/-- Changing items, each of which stays as present as it was, changes no number. -/
theorem rank_mapIdx {as : List α} (hf : ∀ i a, p (f i a) = p a) (i : Nat) :
    rank p (as.mapIdx f) i = rank p as i := by
  induction as generalizing f i with
  | nil => rfl
  | cons b as ih =>
      rw [List.mapIdx_cons]
      cases i with
      | zero => rw [rank, rank, hf]
      | succ i => rw [rank, rank, ih (fun i a => hf (i + 1) a), hf]

/-- The table of the changed items is the table with the changes made under the
numbers of the items. -/
theorem filter_mapIdx {as : List α} {g : Nat → α → α} (hf : ∀ i a, p (f i a) = p a)
    (hg : ∀ i a, as[i]? = some a → p a = true → g (rank p as i - 1) a = f i a) :
    (as.filter p).mapIdx g = (as.mapIdx f).filter p := by
  induction as generalizing f g with
  | nil => rfl
  | cons b as ih =>
      have hf' : ∀ i a, p (f (i + 1) a) = p a := fun i a => hf (i + 1) a
      rw [List.mapIdx_cons]
      by_cases hb : p b = true
      · rw [List.filter_cons_of_pos hb, List.filter_cons_of_pos ((hf 0 b).trans hb),
          List.mapIdx_cons, ← ih hf' (g := fun k => g (k + 1))]
        · have hhead := hg 0 b rfl hb
          rw [rank, if_pos hb] at hhead
          rw [← hhead]
        · intro i a hi ha
          have hpos := (getElem?_filter_rank p hi ha).1
          rw [← hg (i + 1) a hi ha, rank, if_neg (by omega), if_pos hb]
          congr 1
          omega
      · rw [List.filter_cons_of_neg hb, List.filter_cons_of_neg (by rwa [hf 0 b]),
          ← ih hf']
        intro i a hi ha
        have hpos := (getElem?_filter_rank p hi ha).1
        rw [← hg (i + 1) a hi ha, rank, if_neg (by omega), if_neg hb, Nat.add_zero]

end

end

end TruenasPydmi.Foundation
