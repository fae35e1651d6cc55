/-
  Decode/Views.lean --- what the properties of a record show of it.

  Each property is documented as a view of some bits of one field.  Two records have
  the same view exactly when they agree on these bits, so that no bit of the
  documentation is lost and no other bit shows through (`views_exact`).  The voltage of
  a processor is stored in one of two ways, and shows the bits of the one that is used.
-/
import TruenasPydmi.Decode.Features
import TruenasPydmi.Decode.Names
import TruenasPydmi.Python.Strptime
import TruenasPydmi.Views

set_option autoImplicit false

namespace TruenasPydmi

open TruenasPydmi.Foundation TruenasPydmi.Python

/-! ## Fields of bits -/

section

variable (m n : Nat)

/-- `(value >> lo) & mask` holds the bits from `lo` on. -/
theorem shift_and_eq_iff (lo k : Nat) :
    (m >>> lo) &&& (2 ^ (k + 1) - 1) = (n >>> lo) &&& (2 ^ (k + 1) - 1) ↔
      AgreeOnBits m n lo (lo + k) := by
  constructor
  · intro heq j hlo hhi
    have hbit := congrArg (Nat.testBit · (j - lo)) heq
    simp only [Nat.testBit_and, Nat.testBit_shiftRight, Nat.testBit_two_pow_sub_one,
      decide_eq_true (show j - lo < k + 1 by omega), Bool.and_true,
      show lo + (j - lo) = j by omega] at hbit
    exact hbit
  · intro hagree
    refine Nat.eq_of_testBit_eq fun j => ?_
    rw [Nat.testBit_and, Nat.testBit_and, Nat.testBit_shiftRight, Nat.testBit_shiftRight,
      Nat.testBit_two_pow_sub_one]
    by_cases hj : j < k + 1
    · have hbit := hagree (lo + j) (by omega) (by omega)
      rw [testBit_natCast, testBit_natCast] at hbit
      rw [hbit]
    · rw [decide_eq_false hj, Bool.and_false, Bool.and_false]

theorem agreeOnBit_iff (k : Nat) : AgreeOnBits m n k k ↔ m.testBit k = n.testBit k := by
  constructor
  · intro hagree
    exact hagree k le_rfl le_rfl
  · intro heq j hlo hhi
    rw [Nat.le_antisymm hhi hlo]
    exact heq

/-- `bool(value & flag)` is one bit. -/
theorem truthy_and_two_pow (k : Nat) : truthy (m &&& 2 ^ k) = m.testBit k := by
  rw [Bool.eq_iff_iff, truthy_nat, Nat.and_two_pow]
  cases m.testBit k with
  | false => simp
  | true => simp

theorem truthy_and_eq_iff (k : Nat) :
    truthy (m &&& 2 ^ k) = truthy (n &&& 2 ^ k) ↔ AgreeOnBits m n k k := by
  rw [truthy_and_two_pow, truthy_and_two_pow, agreeOnBit_iff]

/-- `value >> 1` holds all bits but the first. -/
theorem shift_one_eq_iff :
    m >>> 1 = n >>> 1 ↔ ∀ k, 1 ≤ k → m.testBit k = n.testBit k := by
  constructor
  · intro heq k hk
    have hbit := congrArg (Nat.testBit · (k - 1)) heq
    simp only [Nat.testBit_shiftRight, show 1 + (k - 1) = k by omega] at hbit
    exact hbit
  · intro hagree
    refine Nat.eq_of_testBit_eq fun k => ?_
    rw [Nat.testBit_shiftRight, Nat.testBit_shiftRight]
    exact hagree (1 + k) (by omega)

/-- `value & ~1` does so too. -/
theorem ldiff_one_eq_iff :
    Nat.ldiff m 1 = Nat.ldiff n 1 ↔ ∀ k, 1 ≤ k → m.testBit k = n.testBit k := by
  have hone : ∀ k, Nat.testBit 1 k = true ↔ k = 0 := fun k =>
    Nat.testBit_one_eq_true_iff_self_eq_zero
  constructor
  · intro heq k hk
    have hbit := congrArg (Nat.testBit · k) heq
    have hclear : Nat.testBit 1 k = false := by
      rw [← Bool.not_eq_true, hone]
      omega
    simpa only [Nat.testBit_ldiff, hclear, Bool.not_false, Bool.and_true] using hbit
  · intro hagree
    refine Nat.eq_of_testBit_eq fun k => ?_
    rw [Nat.testBit_ldiff, Nat.testBit_ldiff]
    by_cases hk : k = 0
    · rw [(hone k).mpr hk, Bool.not_true, Bool.and_false, Bool.and_false]
    · rw [hagree k (by omega)]

/-- A number is its first bit and the others. -/
theorem eq_iff_bits :
    m = n ↔ (∀ k, 1 ≤ k → m.testBit k = n.testBit k) ∧ AgreeOnBits m n 0 0 := by
  rw [agreeOnBit_iff]
  constructor
  · rintro rfl
    exact ⟨fun _ _ => rfl, rfl⟩
  · rintro ⟨hrest, hfirst⟩
    refine Nat.eq_of_testBit_eq fun k => ?_
    cases k with
    | zero => exact hfirst
    | succ k => exact hrest (k + 1) (by omega)

/-- `f"{major}.{minor}"` tells both numbers. -/
theorem version_eq_iff (m' n' : Nat) :
    formatNat 10 1 m ++ '.' :: formatNat 10 1 n = formatNat 10 1 m' ++ '.' :: formatNat 10 1 n' ↔
      m = m' ∧ n = n' := by
  have hdot : ∀ u, '.' ∉ formatNat 10 1 u := by
    intro u hmem
    exact absurd (digit_of_mem_formatNat hmem) (by decide)
  constructor
  · intro heq
    obtain ⟨hmajor, hminor⟩ := split_unique (hdot m) (hdot m') heq
    exact ⟨formatNat_inj (by decide) (by decide) hmajor,
      formatNat_inj (by decide) (by decide) hminor⟩
  · rintro ⟨rfl, rfl⟩
    rfl

end

/-! ## The voltage of a processor -/

/-- The bits that flag a supported voltage, highest voltage first, and this voltage in
tenths of a volt. -/
def voltageFlags : List (Nat × Nat) := [(0, 50), (1, 33), (2, 29)]

/-- The bit is the lowest one that is set. -/
def LowestBit (n k : Nat) : Prop := n.testBit k = true ∧ ∀ j < k, n.testBit j = false

section

variable {p p' : ProcessorInfo}

/-- The voltage, bit by bit: where it is unknown no bit is set. -/
theorem voltageVolts_eq (p : ProcessorInfo) :
    p.voltageVolts =
      if p.voltageRaw.testBit 7 then some (p.voltageRaw &&& 0x7F)
      else if p.voltageRaw.testBit 0 then some 50
      else if p.voltageRaw.testBit 1 then some 33
      else if p.voltageRaw.testBit 2 then some 29 else none := by
  unfold ProcessorInfo.voltageVolts
  by_cases hzero : p.voltageRaw = 0
  · rw [if_pos hzero, hzero]
    rfl
  · rw [if_neg hzero, ← truthy_and_two_pow _ 7, ← truthy_and_two_pow _ 0,
      ← truthy_and_two_pow _ 1, ← truthy_and_two_pow _ 2]
    rfl

theorem voltageVolts_modern (h : p.voltageRaw.testBit 7 = true) :
    p.voltageVolts = some (p.voltageRaw &&& 0x7F) := by
  rw [voltageVolts_eq, if_pos h]

/-- In legacy mode the lowest flag that is set decides. -/
theorem voltageVolts_eq_some_iff (h : p.voltageRaw.testBit 7 = false) (v : Nat) :
    p.voltageVolts = some v ↔
      ∃ flag ∈ voltageFlags, LowestBit p.voltageRaw flag.1 ∧ flag.2 = v := by
  rw [voltageVolts_eq, h]
  simp only [voltageFlags, LowestBit, List.mem_cons, List.not_mem_nil, or_false,
    exists_eq_or_imp, exists_eq_left, Nat.not_lt_zero, false_implies, implies_true, and_true,
    Nat.lt_one_iff, forall_eq, Nat.forall_lt_succ_right]
  cases p.voltageRaw.testBit 0 with
  | true => simp
  | false =>
      cases p.voltageRaw.testBit 1 with
      | true => simp
      | false =>
          cases p.voltageRaw.testBit 2 with
          | true => simp
          | false => simp

theorem voltageVolts_legacy_eq_iff (h : p.voltageRaw.testBit 7 = false)
    (h' : p'.voltageRaw.testBit 7 = false) :
    p.voltageVolts = p'.voltageVolts ↔ ∀ flag ∈ voltageFlags,
      (LowestBit p.voltageRaw flag.1 ↔ LowestBit p'.voltageRaw flag.1) := by
  -- no two flags stand for one voltage
  have hinj : ∀ flag ∈ voltageFlags, ∀ flag' ∈ voltageFlags, flag'.2 = flag.2 → flag' = flag := by
    decide
  have hshows : ∀ {p : ProcessorInfo}, p.voltageRaw.testBit 7 = false → ∀ flag ∈ voltageFlags,
      (LowestBit p.voltageRaw flag.1 ↔ p.voltageVolts = some flag.2) := by
    intro p h flag hflag
    rw [voltageVolts_eq_some_iff h]
    constructor
    · exact fun hlow => ⟨flag, hflag, hlow, rfl⟩
    · rintro ⟨flag', hflag', hlow, hv⟩
      rwa [← hinj flag hflag flag' hflag' hv]
  constructor
  · intro heq flag hflag
    rw [hshows h flag hflag, hshows h' flag hflag, heq]
  · intro hsame
    refine Option.ext fun v => ?_
    rw [voltageVolts_eq_some_iff h, voltageVolts_eq_some_iff h']
    exact exists_congr fun flag => and_congr_right fun hflag => and_congr_left' (hsame flag hflag)

theorem voltageVolts_mixed_eq_iff (h : p.voltageRaw.testBit 7 = true)
    (h' : p'.voltageRaw.testBit 7 = false) :
    p.voltageVolts = p'.voltageVolts ↔ ∃ flag ∈ voltageFlags,
      LowestBit p'.voltageRaw flag.1 ∧ flag.2 = p.voltageRaw &&& 0x7F := by
  rw [voltageVolts_modern h, eq_comm, voltageVolts_eq_some_iff h']

end

theorem MemoryDevice.populated_eq_true_iff (d : MemoryDevice) :
    d.populated = true ↔ ∃ n ∈ d.sizeBytes, 0 < n := by
  rw [populated]
  cases d.sizeBytes with
  | none => simp
  | some size => simp

/-! ## The views -/

/-- Each property shows the bits it is documented to show, all of them and no others.
A voltage is shown in one of two modes: by its low seven bits, or by the lowest flag
that is set; it is the same in both when these bits are the tenths the flag stands
for. -/
theorem views_exact :
    (∀ c c' : CacheInfo,
      (c.cacheLevel = c'.cacheLevel ↔ AgreeOnBits c.configuration c'.configuration 0 2) ∧
      (c.socketed = c'.socketed ↔ AgreeOnBits c.configuration c'.configuration 3 3) ∧
      (c.locationName = c'.locationName ↔ AgreeOnBits c.configuration c'.configuration 5 6) ∧
      (c.enabledAtBoot = c'.enabledAtBoot ↔ AgreeOnBits c.configuration c'.configuration 7 7) ∧
      (c.operationalModeName = c'.operationalModeName ↔
        AgreeOnBits c.configuration c'.configuration 8 9) ∧
      (c.errorCorrectionName = c'.errorCorrectionName ↔ c.errorCorrection = c'.errorCorrection) ∧
      (c.systemCacheTypeName = c'.systemCacheTypeName ↔ c.systemCacheType = c'.systemCacheType) ∧
      (c.associativityName = c'.associativityName ↔ c.associativity = c'.associativity) ∧
      (c.supportedSramTypeNames = c'.supportedSramTypeNames ↔
        AgreeOnBits c.supportedSramTypes c'.supportedSramTypes 0 6) ∧
      (c.currentSramTypeNames = c'.currentSramTypeNames ↔
        AgreeOnBits c.currentSramType c'.currentSramType 0 6)) ∧
    (∀ d d' : MemoryDevice,
      (d.memoryTechnologyName = d'.memoryTechnologyName ↔
        d.memoryTechnology = d'.memoryTechnology) ∧
      (d.operatingModeNames = d'.operatingModeNames ↔
        AgreeOnBits d.operatingModeCapability d'.operatingModeCapability 1 5) ∧
      (d.populated = d'.populated ↔
        ((∃ n ∈ d.sizeBytes, 0 < n) ↔ ∃ n ∈ d'.sizeBytes, 0 < n))) ∧
    (∀ p p' : ProcessorInfo,
      (p.populated = p'.populated ↔ AgreeOnBits p.status p'.status 6 6) ∧
      (p.voltageRaw.testBit 7 = true → p'.voltageRaw.testBit 7 = true →
        (p.voltageVolts = p'.voltageVolts ↔ AgreeOnBits p.voltageRaw p'.voltageRaw 0 6)) ∧
      (p.voltageRaw.testBit 7 = false → p'.voltageRaw.testBit 7 = false →
        (p.voltageVolts = p'.voltageVolts ↔ ∀ flag ∈ voltageFlags,
          (LowestBit p.voltageRaw flag.1 ↔ LowestBit p'.voltageRaw flag.1))) ∧
      (p.voltageRaw.testBit 7 = true → p'.voltageRaw.testBit 7 = false →
        (p.voltageVolts = p'.voltageVolts ↔ ∃ flag ∈ voltageFlags,
          LowestBit p'.voltageRaw flag.1 ∧ flag.2 = p.voltageRaw &&& 0x7F))) ∧
    (∀ d d' : IPMIDevice,
      (d.i2cSlaveAddressCanonical = d'.i2cSlaveAddressCanonical ↔
        ∀ k, 1 ≤ k → d.i2cSlaveAddress.testBit k = d'.i2cSlaveAddress.testBit k) ∧
      (d.baseAddressValue = d'.baseAddressValue ↔
        ∀ k, 1 ≤ k → d.baseAddress.testBit k = d'.baseAddress.testBit k) ∧
      (d.baseAddressIoMapped = d'.baseAddressIoMapped ↔
        AgreeOnBits d.baseAddress d'.baseAddress 0 0) ∧
      (d.baseAddress = d'.baseAddress ↔ d.baseAddressValue = d'.baseAddressValue ∧
        d.baseAddressIoMapped = d'.baseAddressIoMapped)) ∧
    ∀ d d' : TPMDevice, d.firmwareVersion = d'.firmwareVersion ↔
      AgreeOnBits d.firmwareVersion1 d'.firmwareVersion1 16 23 ∧
        AgreeOnBits d.firmwareVersion1 d'.firmwareVersion1 0 7 := by
  have hname : ∀ table ∈ plainTables, ∀ u u' : Nat,
      lookup table (u : Int) = lookup table (u' : Int) ↔ u = u' :=
    fun table htable u u' => ((plainTables_share table htable).lookup_inj u u').trans Int.ofNat_inj
  refine ⟨fun c c' => ⟨?_, ?_, ?_, ?_, ?_, ?_, ?_, ?_, ?_, ?_⟩, fun d d' => ⟨?_, ?_, ?_⟩,
    fun p p' => ⟨?_, fun h h' => ?_, voltageVolts_legacy_eq_iff, voltageVolts_mixed_eq_iff⟩,
    fun d d' => ⟨?_, ?_, ?_, ?_⟩, fun d d' => ?_⟩
  · exact Nat.add_right_cancel_iff.trans (shift_and_eq_iff c.configuration c'.configuration 0 2)
  · exact truthy_and_eq_iff _ _ 3
  · exact (hname cacheLocations (by simp [plainTables]) _ _).trans (shift_and_eq_iff _ _ 5 1)
  · exact truthy_and_eq_iff _ _ 7
  · exact (hname cacheOperationalModes (by simp [plainTables]) _ _).trans
      (shift_and_eq_iff _ _ 8 1)
  · exact hname cacheErrorCorrection (by simp [plainTables]) _ _
  · exact hname cacheSystemTypes (by simp [plainTables]) _ _
  · exact hname cacheAssociativities (by simp [plainTables]) _ _
  · exact bitNames_eq_iff (by decide) nodup_cacheSramType _ _
  · exact bitNames_eq_iff (by decide) nodup_cacheSramType _ _
  · exact hname memoryTechnologies (by simp [plainTables]) _ _
  · exact bitNames_eq_iff (by decide) nodup_memoryOperatingMode _ _
  · rw [Bool.eq_iff_iff, d.populated_eq_true_iff, d'.populated_eq_true_iff]
  · exact truthy_and_eq_iff _ _ 6
  · rw [voltageVolts_modern h, voltageVolts_modern h', Option.some.injEq]
    exact shift_and_eq_iff _ _ 0 6
  · exact shift_one_eq_iff _ _
  · exact ldiff_one_eq_iff _ _
  · exact truthy_and_eq_iff _ _ 0
  · exact (eq_iff_bits _ _).trans
      (and_congr (ldiff_one_eq_iff _ _).symm (truthy_and_eq_iff _ _ 0).symm)
  · exact (version_eq_iff _ _ _ _).trans
      (and_congr (shift_and_eq_iff _ _ 16 7) (shift_and_eq_iff _ _ 0 7))

end TruenasPydmi
