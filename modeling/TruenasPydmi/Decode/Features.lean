/-
  Decode/Features.lean --- the decoded feature names tell every defined bit.

  Two numbers give the same names exactly when they agree on the bits the table
  defines.  For the BIOS characteristics three tables are read one after the
  other, the first of them only while bit 3 is clear; since no name stands twice
  in the three, the list of names still says which bits of which part are set.
-/
import TruenasPydmi.Enums
import TruenasPydmi.Foundation.Flags

set_option autoImplicit false

namespace TruenasPydmi

open TruenasPydmi.Foundation TruenasPydmi.Python

/-! ## One table -/

theorem hasBit_two_pow (v : Int) (k : Nat) : hasBit v (2 ^ k) = v.testBit k := by
  have h := land_two_pow_eq_zero_iff v k
  rw [hasBit, Bool.eq_iff_iff, bne_iff_ne, ne_eq, h, Bool.not_eq_false]

theorem hasBit_zero (bit : Nat) : hasBit 0 bit = false := by
  have hzero : Int.land 0 bit = ((0 &&& bit : Nat) : Int) := rfl
  simp [hasBit, hzero]

theorem bitNames_zero (table : BitTable) : bitNames table 0 = [] := by
  simp [bitNames, hasBit_zero]

theorem bitNames_sublist (table : BitTable) (v : Int) :
    (bitNames table v).Sublist (table.map Prod.snd) :=
  List.filter_sublist.map Prod.snd

/-- The masks of the table are those of the bits `lo` to `hi`, in this order. -/
def BitTable.Covers (table : BitTable) (lo hi : Nat) : Prop :=
  table.map Prod.fst = (List.range' lo (hi + 1 - lo)).map (2 ^ ·)

instance (table : BitTable) (lo hi : Nat) : Decidable (table.Covers lo hi) :=
  inferInstanceAs (Decidable (_ = _))

/-- The names tell the bits the table covers, and no others. -/
theorem bitNames_eq_iff {table : BitTable} {lo hi : Nat} (hmasks : table.Covers lo hi)
    (hnames : (table.map Prod.snd).Nodup) (v w : Int) :
    bitNames table v = bitNames table w ↔ AgreeOnBits v w lo hi := by
  rw [bitNames, bitNames, map_filter_eq_iff hnames]
  have hentries : (∀ entry ∈ table, hasBit v entry.1 = hasBit w entry.1) ↔
      ∀ bit ∈ table.map Prod.fst, hasBit v bit = hasBit w bit := by
    rw [List.forall_mem_map]
  rw [hentries, hmasks, List.forall_mem_map]
  simp only [List.mem_range'_1, hasBit_two_pow]
  constructor
  · intro h k hlo hhi
    exact h k ⟨hlo, by omega⟩
  · intro h k hk
    exact h k hk.1 (by omega)

/-! ## The BIOS characteristics -/

/-- The part of the names that comes from the qword. -/
def qwordNames (v : Int) : List String :=
  if v.testBit 3 then ["BIOS characteristics not supported"]
  else bitNames (biosCharacteristics.filter fun entry => entry.1 != 0x08) v

/-- The part of the names that comes from the extension bytes; a missing byte
counts as zero. -/
def extensionNames (x : Bytes) : List String :=
  bitNames biosCharExtByte1 (x.getD 0 0).toNat ++ bitNames biosCharExtByte2 (x.getD 1 0).toNat

theorem biosCharacteristicsNames_eq (v : Int) (x : Bytes) :
    biosCharacteristicsNames v x = qwordNames v ++ extensionNames x := by
  have hbit : hasBit v 0x08 = v.testBit 3 := hasBit_two_pow v 3
  unfold biosCharacteristicsNames
  rw [hbit]
  cases x with
  | nil => simp [qwordNames, extensionNames, bitNames_zero]
  | cons first rest =>
      cases rest with
      | nil => simp [qwordNames, extensionNames, bitNames_zero]
      | cons second rest => simp [qwordNames, extensionNames]

/-- No name stands twice in the three tables. -/
theorem nodup_biosNames :
    (biosCharacteristics.map Prod.snd ++
      (biosCharExtByte1.map Prod.snd ++ biosCharExtByte2.map Prod.snd)).Nodup := by
  simp [biosCharacteristics, biosCharExtByte1, biosCharExtByte2]

theorem qwordNames_sublist (v : Int) :
    (qwordNames v).Sublist (biosCharacteristics.map Prod.snd) := by
  rw [qwordNames]
  split
  · simp [biosCharacteristics]
  · exact (bitNames_sublist _ v).trans (List.filter_sublist.map Prod.snd)

theorem extensionNames_sublist (x : Bytes) : (extensionNames x).Sublist
    (biosCharExtByte1.map Prod.snd ++ biosCharExtByte2.map Prod.snd) :=
  (bitNames_sublist _ _).append (bitNames_sublist _ _)

theorem qwordNames_eq_iff (v w : Int) : qwordNames v = qwordNames w ↔
    v.testBit 3 = w.testBit 3 ∧ (v.testBit 3 = false → AgreeOnBits v w 4 31) := by
  let table : BitTable := biosCharacteristics.filter fun entry => entry.1 != 0x08
  have htable : ∀ u, bitNames table u ≠ ["BIOS characteristics not supported"] := by
    intro u h
    have hmem : "BIOS characteristics not supported" ∈ table.map Prod.snd :=
      (bitNames_sublist table u).subset (by simp [h])
    simp [table, biosCharacteristics] at hmem
  have hclear : bitNames table v = bitNames table w ↔ AgreeOnBits v w 4 31 := by
    refine bitNames_eq_iff (by decide) ?_ v w
    exact (List.nodup_append.mp nodup_biosNames).1.sublist (List.filter_sublist.map Prod.snd)
  cases hv : v.testBit 3 with
  | false =>
      cases hw : w.testBit 3 with
      | false => simpa [qwordNames, hv, hw] using hclear
      | true => simpa [qwordNames, hv, hw] using htable v
  | true =>
      cases hw : w.testBit 3 with
      | false => simpa [qwordNames, hv, hw] using (htable w).symm
      | true => simp [qwordNames, hv, hw]

theorem extensionNames_eq_iff (x y : Bytes) : extensionNames x = extensionNames y ↔
    x.getD 0 0 = y.getD 0 0 ∧
      AgreeOnBits (x.getD 1 0).toNat (y.getD 1 0).toNat 0 6 := by
  have hnodup := (List.nodup_append.mp nodup_biosNames).2.1
  obtain ⟨hfirst, hsecond, hapart⟩ := List.nodup_append.mp hnodup
  have hbytes : x.getD 0 0 = y.getD 0 0 ↔
      AgreeOnBits (x.getD 0 0).toNat (y.getD 0 0).toNat 0 7 := by
    rw [← UInt8.toNat_inj]
    exact eq_iff_agreeOnBits (x.getD 0 0).toNat_lt (y.getD 0 0).toNat_lt
  have hmem : ∀ (table : BitTable) (b : UInt8), ∀ a ∈ bitNames table b.toNat,
      a ∈ table.map Prod.snd :=
    fun table b _ h => (bitNames_sublist table _).subset h
  rw [extensionNames, extensionNames,
    append_eq_append_iff_of_sides (· ∈ biosCharExtByte1.map Prod.snd)
      (· ∈ biosCharExtByte2.map Prod.snd) (fun a ha ha' => hapart a ha a ha' rfl)
      (hmem _ _) (hmem _ _) (hmem _ _) (hmem _ _)]
  refine and_congr ((bitNames_eq_iff ?_ hfirst _ _).trans hbytes.symm)
    (bitNames_eq_iff ?_ hsecond _ _)
  · decide
  · decide

/-- The names tell bit 3, the bits 4 to 31 while it is clear, and the extension
bytes. -/
theorem biosCharacteristicsNames_eq_iff (v w : Int) (x y : Bytes) :
    biosCharacteristicsNames v x = biosCharacteristicsNames w y ↔
      (v.testBit 3 = w.testBit 3 ∧ (v.testBit 3 = false → AgreeOnBits v w 4 31)) ∧
      x.getD 0 0 = y.getD 0 0 ∧
      AgreeOnBits (x.getD 1 0).toNat (y.getD 1 0).toNat 0 6 := by
  obtain ⟨-, -, hapart⟩ := List.nodup_append.mp nodup_biosNames
  rw [biosCharacteristicsNames_eq, biosCharacteristicsNames_eq,
    append_eq_append_iff_of_sides (· ∈ biosCharacteristics.map Prod.snd)
      (· ∈ biosCharExtByte1.map Prod.snd ++ biosCharExtByte2.map Prod.snd)
      (fun a ha ha' => hapart a ha a ha' rfl)
      (fun _ h => (qwordNames_sublist v).subset h) (fun _ h => (qwordNames_sublist w).subset h)
      (fun _ h => (extensionNames_sublist x).subset h)
      (fun _ h => (extensionNames_sublist y).subset h),
    qwordNames_eq_iff, extensionNames_eq_iff]

theorem nodup_biosCharacteristicsNames (v : Int) (x : Bytes) :
    (biosCharacteristicsNames v x).Nodup := by
  rw [biosCharacteristicsNames_eq]
  exact nodup_biosNames.sublist ((qwordNames_sublist v).append (extensionNames_sublist x))

/-! ## All four decoders -/

theorem nodup_memoryTypeDetail : (memoryTypeDetailBits.map Prod.snd).Nodup := by
  simp [memoryTypeDetailBits]

theorem nodup_memoryOperatingMode : (memoryOperatingModeBits.map Prod.snd).Nodup := by
  simp [memoryOperatingModeBits]

theorem nodup_cacheSramType : (cacheSramTypeBits.map Prod.snd).Nodup := by
  simp [cacheSramTypeBits]

/-- Feature names tell every defined bit and no other, and stand once each. -/
theorem featureNames_exact :
    (∀ (v w : Int) (x y : Bytes),
      biosCharacteristicsNames v x = biosCharacteristicsNames w y ↔
        (v.testBit 3 = w.testBit 3 ∧ (v.testBit 3 = false → AgreeOnBits v w 4 31)) ∧
        x.getD 0 0 = y.getD 0 0 ∧
        AgreeOnBits (x.getD 1 0).toNat (y.getD 1 0).toNat 0 6) ∧
    (∀ v w : Int,
      (memoryTypeDetailNames v = memoryTypeDetailNames w ↔ AgreeOnBits v w 1 15) ∧
      (memoryOperatingModeNames v = memoryOperatingModeNames w ↔ AgreeOnBits v w 1 5) ∧
      (cacheSramTypeNames v = cacheSramTypeNames w ↔ AgreeOnBits v w 0 6)) ∧
    (∀ (v : Int) (x : Bytes), (biosCharacteristicsNames v x).Nodup) ∧
    ∀ v : Int, (memoryTypeDetailNames v).Nodup ∧ (memoryOperatingModeNames v).Nodup ∧
      (cacheSramTypeNames v).Nodup := by
  refine ⟨biosCharacteristicsNames_eq_iff, fun v w => ⟨?_, ?_, ?_⟩,
    nodup_biosCharacteristicsNames, fun v => ⟨?_, ?_, ?_⟩⟩
  · exact bitNames_eq_iff (by decide) nodup_memoryTypeDetail v w
  · exact bitNames_eq_iff (by decide) nodup_memoryOperatingMode v w
  · exact bitNames_eq_iff (by decide) nodup_cacheSramType v w
  · exact nodup_memoryTypeDetail.sublist (bitNames_sublist _ v)
  · exact nodup_memoryOperatingMode.sublist (bitNames_sublist _ v)
  · exact nodup_cacheSramType.sublist (bitNames_sublist _ v)

end TruenasPydmi
