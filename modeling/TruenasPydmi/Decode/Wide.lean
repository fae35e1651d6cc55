/-
  Decode/Wide.lean --- fields that come in two widths.

  A count or a size that outgrew its field has a second, wider one; a sentinel in
  the old field refers to it.  For sizes, `SameSize` says that two structures with
  the same size in either width decode to the same number of bytes.  For the
  counts of a processor, `resolve_countExact_iff` says when a count is what its
  two fields mean: always but for the one case where the sentinel refers to a wide
  field that is zero, which comes out as the number zero and not as "unknown".
-/
import TruenasPydmi.Decode.Total
import TruenasPydmi.Foundation.Flags

set_option autoImplicit false

namespace TruenasPydmi

open TruenasPydmi.Foundation TruenasPydmi.Python

/-! ## Counts -/

/-- A count that is unknown when its field is absent or zero. -/
structure WordCountExact (word out : Option Nat) : Prop where
  positive : ∀ c, out = some c → 1 ≤ c
  none_iff : out = none ↔ word = none ∨ word = some 0
  value : out ≠ none → out = word

/-- A count with an 8-bit field, where 0xFF refers to the 16-bit one.  Zero means
"unknown" in both. -/
structure CountExact (small big out : Option Nat) : Prop where
  positive : ∀ c, out = some c → 1 ≤ c
  none_iff : out = none ↔
    (small = none ∨ small = some 0) ∨ (small = some 0xFF ∧ big = some 0)
  value : out ≠ none → out = if small = some 0xFF ∧ big ≠ none then big else small

theorem noneIf_wordCountExact (word : Option Nat) : WordCountExact word (noneIf 0 word) := by
  cases word with
  | none => exact ⟨by simp [noneIf], by simp [noneIf], by simp [noneIf]⟩
  | some n =>
      cases n with
      | zero => exact ⟨by simp [noneIf], by simp [noneIf], by simp [noneIf]⟩
      | succ n =>
          refine ⟨?_, by simp [noneIf], by simp [noneIf]⟩
          intro c hc
          obtain rfl : n + 1 = c := by simpa [noneIf] using hc
          exact Nat.le_add_left 1 n

/-- The sentinel with a present wide field gives the wide field as it is. -/
theorem resolve_sentinel {big : Option Nat} (h : big ≠ none) :
    resolve (some 0xFF) big = big := by
  simp [resolve, h]

/-- In every other case the narrow field is the count, and zero is "unknown". -/
theorem resolve_narrow {small big : Option Nat} (h : ¬ (small = some 0xFF ∧ big ≠ none)) :
    resolve small big = noneIf 0 small := by
  cases small with
  | none => rfl
  | some n =>
      have hn : ¬ (n = 0xFF ∧ big ≠ none) := by simpa using h
      simp only [resolve, if_neg hn, noneIf, Option.some.injEq]

theorem resolve_countExact_iff (small big : Option Nat) :
    CountExact small big (resolve small big) ↔ ¬ (small = some 0xFF ∧ big = some 0) := by
  constructor
  · -- the wide zero is returned as a count, which is not positive
    rintro h ⟨rfl, rfl⟩
    exact absurd (h.positive 0 rfl) (by decide)
  · intro hzero
    cases Classical.em (small = some 0xFF ∧ big ≠ none) with
    | inl hwide =>
        obtain ⟨rfl, hbig⟩ := hwide
        obtain ⟨n, rfl⟩ := Option.ne_none_iff_exists'.mp hbig
        have hn : n ≠ 0 := by simpa using hzero
        rw [resolve_sentinel hbig]
        refine ⟨?_, by simp [hn], by simp⟩
        intro c hc
        cases hc
        exact Nat.pos_of_ne_zero hn
    | inr hnarrow =>
        obtain ⟨hpositive, hnone, hvalue⟩ := noneIf_wordCountExact small
        rw [resolve_narrow hnarrow]
        refine ⟨hpositive, ?_, ?_⟩
        · simp [hnone, hzero]
        · rw [if_neg hnarrow]
          exact hvalue

/-- The four counts of a processor are what their fields mean. -/
structure CountsExact (raw : RawStructure) (p : ProcessorInfo) : Prop where
  coreCount : CountExact (raw.byte 31) (raw.word 38) p.coreCount
  coresEnabled : CountExact (raw.byte 32) (raw.word 40) p.coresEnabled
  threadCount : CountExact (raw.byte 33) (raw.word 42) p.threadCount
  threadsEnabled : WordCountExact (raw.word 44) p.threadsEnabled

/-- The counts of a processor are exact in every structure but those where a
sentinel refers to a wide field that is zero. -/
theorem parseProcessor_countsExact_iff (raw : RawStructure) :
    (∃ p, parseProcessor raw = .ok p ∧ CountsExact raw p) ↔
      ¬ (raw.byte 31 = some 0xFF ∧ raw.word 38 = some 0) ∧
      ¬ (raw.byte 32 = some 0xFF ∧ raw.word 40 = some 0) ∧
      ¬ (raw.byte 33 = some 0xFF ∧ raw.word 42 = some 0) := by
  rw [exists_eq_ok_and_iff (parseProcessor_eq raw)]
  constructor
  · rintro ⟨hcore, henabled, hthread, -⟩
    exact ⟨(resolve_countExact_iff _ _).mp hcore, (resolve_countExact_iff _ _).mp henabled,
      (resolve_countExact_iff _ _).mp hthread⟩
  · rintro ⟨hcore, henabled, hthread⟩
    refine ⟨?_, ?_, ?_, ?_⟩
    · exact (resolve_countExact_iff _ _).mpr hcore
    · exact (resolve_countExact_iff _ _).mpr henabled
    · exact (resolve_countExact_iff _ _).mpr hthread
    · exact noneIf_wordCountExact _

/-- A processor whose core count refers to a 16-bit field that is zero is reported
with zero cores. -/
theorem not_countsExact_wideZero : ¬ ∀ raw : RawStructure, raw.type = 4 →
    ∃ p, parseProcessor raw = .ok p ∧ CountsExact raw p := by
  intro h
  have hexact := (exists_eq_ok_and_iff (parseProcessor_eq _)).mp
    (h ⟨4, 0, (List.replicate 46 0).set 31 0xFF, []⟩ rfl)
  exact absurd (hexact.coreCount.positive 0 (by decide)) (by decide)

/-! ## Sizes -/

/-- Both structures decode to a size of `n` bytes. -/
def SameSize {α : Type} (parse : RawStructure → Except BuiltinError α) (size : α → Option Nat)
    (raw raw' : RawStructure) (n : Nat) : Prop :=
  ∃ r r', parse raw = .ok r ∧ parse raw' = .ok r' ∧ size r = some n ∧ size r' = some n

theorem sameSize_of_view {α : Type} {parse : RawStructure → Except BuiltinError α}
    {size : α → Option Nat} {view : RawStructure → α} {raw raw' : RawStructure} {n : Nat}
    (heq : ∀ raw, parse raw = .ok (view raw)) (h : size (view raw) = some n)
    (h' : size (view raw') = some n) : SameSize parse size raw raw' n :=
  ⟨_, _, heq _, heq _, h, h'⟩

section

variable {w k n : Nat} {wide : Option Nat}

/-! ### Memory device -/

/-- A size word without the granularity bit is a number of MB. -/
theorem decodeMemorySize_mb (hpos : 1 ≤ w) (hlt : w < 0x7FFF) :
    decodeMemorySize (some w) wide = some (w * 1024 * 1024) := by
  have hflag : w &&& 0x8000 = 0 := by
    simpa [withFlag] using (not_congr (withFlag_and_flag false (k := 15) (n := w) (by omega))).mpr
      Bool.false_ne_true
  have h1 : w ≠ 0xFFFF := by omega
  have h2 : w ≠ 0 := by omega
  have h3 : w ≠ 0x7FFF := by omega
  simp [decodeMemorySize, h1, h2, h3, hflag, truthy]

/-- A size word with the granularity bit is a number of KB. -/
theorem decodeMemorySize_kb (hlt : k < 0x7FFF) :
    decodeMemorySize (some (0x8000 ||| k)) wide = some (k * 1024) := by
  have hk : k < 2 ^ 15 := by omega
  have hlow : (0x8000 ||| k) &&& 0x7FFF = k := withFlag_and_low true hk
  have hflag : (0x8000 ||| k) &&& 0x8000 ≠ 0 := (withFlag_and_flag true hk).mpr rfl
  have h1 : 0x8000 ||| k ≠ 0xFFFF := by
    intro h
    have hall : 0xFFFF &&& 0x7FFF = 0x7FFF := rfl
    rw [h, hall] at hlow
    omega
  have h2 : 0x8000 ||| k ≠ 0 := by
    intro h
    rw [h] at hflag
    exact hflag rfl
  have h3 : 0x8000 ||| k ≠ 0x7FFF := by
    intro h
    rw [h] at hflag
    exact hflag rfl
  have htruthy : truthy ((0x8000 ||| k) &&& 0x8000) = true := (truthy_nat _).mpr hflag
  simp only [decodeMemorySize, if_neg h1, if_neg h2, if_neg h3, htruthy, if_true, hlow]

/-- The sentinel refers to a number of MB. -/
theorem decodeMemorySize_extended (hpos : 1 ≤ w) :
    decodeMemorySize (some 0x7FFF) (some w) = some (w * 1024 * 1024) := by
  have hw : w ≠ 0 := by omega
  simp [decodeMemorySize, hw]

/-! ### Cache -/

/-- The unit of a cache size: 64 KB with the granularity bit, 1 KB without. -/
def cacheUnit (large : Bool) : Nat := if large then 65536 else 1024

/-- A structure that gives a cache size of `n` units, in the 16-bit field at `o` or
behind its sentinel in the 32-bit field at `wide`. -/
inductive EncodesCacheSize (raw : RawStructure) (o wide : Nat) (large : Bool) (n : Nat) : Prop
  | narrow : n < 0x8000 → withFlag 15 large n ≠ 0 → withFlag 15 large n ≠ 0xFFFF →
      raw.word o = some (withFlag 15 large n) → EncodesCacheSize raw o wide large n
  | wide : n < 0x80000000 → withFlag 31 large n ≠ 0 → raw.word o = some 0xFFFF →
      raw.dword wide = some (withFlag 31 large n) → EncodesCacheSize raw o wide large n

theorem truthy_withFlag {large : Bool} (h : n < 2 ^ k) :
    truthy (withFlag k large n &&& 2 ^ k) = large := by
  rw [Bool.eq_iff_iff, truthy_nat, withFlag_and_flag large h]

/-- Either way the size is decoded as what it is. -/
theorem decodeCacheSize_of_encodes {raw : RawStructure} {o o' : Nat} {large : Bool}
    (h : EncodesCacheSize raw o o' large n) :
    decodeCacheSize (raw.word o) (raw.dword o') = some (n * cacheUnit large) := by
  cases h with
  | narrow hn hzero hsentinel hword =>
      have hlow : withFlag 15 large n &&& 0x7FFF = n := withFlag_and_low large hn
      have hflag : truthy (withFlag 15 large n &&& 0x8000) = large := truthy_withFlag hn
      simp only [hword, decodeCacheSize, if_neg hzero, if_neg hsentinel, hlow, hflag, cacheUnit]
  | wide hn hzero hword hdword =>
      have hlow : withFlag 31 large n &&& 0x7FFFFFFF = n := withFlag_and_low large hn
      have hflag : truthy (withFlag 31 large n &&& 0x80000000) = large := truthy_withFlag hn
      simp [hword, hdword, decodeCacheSize, hzero, hlow, hflag, cacheUnit]

/-! ### Memory array and BIOS ROM -/

theorem decodeCapacity_kb (h : n ≠ 0x80000000) :
    decodeCapacity (some n) wide = some (n * 1024) := by
  simp [decodeCapacity, h]

theorem decodeCapacity_extended (h : n ≠ 0) :
    decodeCapacity (some 0x80000000) (some n) = some n := by
  simp [decodeCapacity, Nat.pos_of_ne_zero h]

theorem decodeRomSize_legacy (h : n ≠ 0xFF) :
    decodeRomSize (some n) wide = some ((n + 1) * 65536) := by
  simp [decodeRomSize, h]

/-- The extended size in MB: unit zero. -/
theorem decodeRomSize_mb (hpos : 1 ≤ n) (hlt : n < 0x4000) :
    decodeRomSize (some 0xFF) (some n) = some (n * 1024 * 1024) := by
  have hn : n ≠ 0 := by omega
  have hsize : n &&& 0x3FFF = n :=
    (Nat.and_two_pow_sub_one_eq_mod n 14).trans (Nat.mod_eq_of_lt hlt)
  have hunit : n >>> 14 &&& 0x03 = 0 := by
    rw [Nat.shiftRight_eq_div_pow, Nat.div_eq_of_lt hlt]
    rfl
  simp [decodeRomSize, hn, hsize, hunit]

/-- The extended size in GB: unit one. -/
theorem decodeRomSize_gb (hlt : n < 0x4000) :
    decodeRomSize (some 0xFF) (some (0x4000 ||| n)) = some (n * 1024 * 1024 * 1024) := by
  have hsize : (0x4000 ||| n) &&& 0x3FFF = n := withFlag_and_low (k := 14) true hlt
  have hunit : (0x4000 ||| n) >>> 14 &&& 0x03 = 1 := by
    rw [Nat.shiftRight_or_distrib, Nat.shiftRight_eq_div_pow n, Nat.div_eq_of_lt hlt]
    rfl
  have hn : 0x4000 ||| n ≠ 0 := by
    intro h
    rw [h] at hunit
    exact absurd hunit (by decide)
  simp [decodeRomSize, hn, hsize, hunit]

end

/-! ### The two encodings of a size -/

/-- A field of `width` bytes holds a number of `width` bytes. -/
theorem field_lt {raw : RawStructure} {width o n : Nat} (h : raw.field width o = some n) :
    n < 256 ^ width := by
  unfold RawStructure.field at h
  split at h
  · rename_i hle
    cases h
    have hdigits : ∀ d ∈ (slice raw.formatted o (o + width)).map UInt8.toNat, d < 256 := by
      intro d hd
      obtain ⟨b, -, rfl⟩ := List.mem_map.mp hd
      exact b.toNat_lt
    have hlt := Nat.ofDigits_lt_base_pow_length (by decide) hdigits
    rwa [List.length_map, length_slice_of_le hle, Nat.add_sub_cancel_left] at hlt
  · cases h

theorem withFlag_eq_zero_iff {k n : Nat} {flag : Bool} :
    withFlag k flag n = 0 ↔ flag = false ∧ n = 0 := by
  cases flag with
  | false => simp [withFlag]
  | true => simp [withFlag, Nat.or_eq_zero_iff]

/-- The two encodings of a cache size agree: a 16-bit word and the sentinel with
the same size in the 32-bit field, and 64 KB units and 1 KB units in whichever of
the fields they fit. -/
structure CacheSizesAgree (size : CacheInfo → Option Nat) (o wide : Nat)
    (raw raw' : RawStructure) : Prop where
  extended : ∀ v, v ≠ 0 → v ≠ 0xFFFF → raw.word o = some v → raw'.word o = some 0xFFFF →
    raw'.dword wide = some (withFlag 31 (v.testBit 15) (v % 0x8000)) →
    SameSize parseCache size raw raw' (v % 0x8000 * cacheUnit (v.testBit 15))
  units : ∀ s, 0 < s → EncodesCacheSize raw o wide true s →
    EncodesCacheSize raw' o wide false (64 * s) →
    SameSize parseCache size raw raw' (s * 65536)

theorem cacheSizesAgree {size : CacheInfo → Option Nat} {o wide : Nat}
    (hsize : ∀ raw : RawStructure,
      size raw.toCache = decodeCacheSize (raw.word o) (raw.dword wide))
    (raw raw' : RawStructure) : CacheSizesAgree size o wide raw raw' := by
  have hdecode : ∀ {raw : RawStructure} {large : Bool} {n : Nat},
      EncodesCacheSize raw o wide large n → size raw.toCache = some (n * cacheUnit large) :=
    fun h => (hsize _).trans (decodeCacheSize_of_encodes h)
  constructor
  · intro v hzero hsentinel hword hword' hdword'
    have hv : withFlag 15 (v.testBit 15) (v % 0x8000) = v := withFlag_testBit_mod (field_lt hword)
    have hlow : v % 0x8000 < 0x8000 := Nat.mod_lt _ (by decide)
    have hnarrow : EncodesCacheSize raw o wide (v.testBit 15) (v % 0x8000) := by
      apply EncodesCacheSize.narrow hlow
      · rwa [hv]
      · rwa [hv]
      · rwa [hv]
    have hwide : EncodesCacheSize raw' o wide (v.testBit 15) (v % 0x8000) := by
      refine .wide (Nat.lt_trans hlow (by decide)) ?_ hword' hdword'
      rw [← hv] at hzero
      exact fun h => hzero (withFlag_eq_zero_iff.mpr (withFlag_eq_zero_iff.mp h))
    exact sameSize_of_view parseCache_eq (hdecode hnarrow) (hdecode hwide)
  · intro s _ hlarge hsmall
    have hbytes : 64 * s * cacheUnit false = s * 65536 := by
      rw [cacheUnit, if_neg Bool.false_ne_true]
      omega
    refine sameSize_of_view parseCache_eq (hdecode hlarge) ?_
    rw [hdecode hsmall, hbytes]

/-- A size decodes to the same number of bytes in either of its encodings. -/
theorem sizeEncodings_agree (raw raw' : RawStructure) :
    (∀ w, 1 ≤ w → w ≤ 0x7FFE → raw.word 8 = some w →
      raw'.word 8 = some 0x7FFF → raw'.dword 24 = some w →
      SameSize parseMemoryDevice MemoryDevice.sizeBytes raw raw' (w * 1024 * 1024)) ∧
    (∀ k, 0 < k → k < 0x7FFF → 1024 ∣ k → raw.word 8 = some (0x8000 ||| k) →
      raw'.word 8 = some (k / 1024) →
      SameSize parseMemoryDevice MemoryDevice.sizeBytes raw raw' (k * 1024)) ∧
    CacheSizesAgree CacheInfo.maxSizeBytes 3 15 raw raw' ∧
    CacheSizesAgree CacheInfo.installedSizeBytes 5 19 raw raw' ∧
    (∀ c, c ≠ 0 → c ≠ 0x80000000 → raw.dword 3 = some c →
      raw'.dword 3 = some 0x80000000 → raw'.qword 11 = some (1024 * c) →
      SameSize parseMemoryArray MemoryArray.maxCapacityBytes raw raw' (1024 * c)) ∧
    (∀ r, r ≠ 0xFF → 16 ∣ r + 1 → raw.byte 5 = some r →
      raw'.byte 5 = some 0xFF → raw'.word 20 = some ((r + 1) / 16) →
      SameSize parseBios BIOSInfo.romSizeBytes raw raw' ((r + 1) * 65536)) ∧
    (∀ g, 1 ≤ g → g ≤ 15 → raw.byte 5 = some 0xFF → raw.word 20 = some (0x4000 ||| g) →
      raw'.byte 5 = some 0xFF → raw'.word 20 = some (1024 * g) →
      SameSize parseBios BIOSInfo.romSizeBytes raw raw' (g * 1024 * 1024 * 1024)) := by
  refine ⟨?_, ?_, ?_, ?_, ?_, ?_, ?_⟩
  · intro w hpos hle hword hword' hdword'
    apply sameSize_of_view parseMemoryDevice_eq
    · simp only [RawStructure.toMemoryDevice, hword]
      exact decodeMemorySize_mb hpos (by omega)
    · simp only [RawStructure.toMemoryDevice, hword', hdword']
      exact decodeMemorySize_extended hpos
  · intro k hpos hlt hdvd hword hword'
    obtain ⟨m, rfl⟩ := hdvd
    rw [Nat.mul_div_cancel_left m (by decide)] at hword'
    apply sameSize_of_view parseMemoryDevice_eq
    · simp only [RawStructure.toMemoryDevice, hword]
      exact decodeMemorySize_kb hlt
    · simp only [RawStructure.toMemoryDevice, hword', decodeMemorySize_mb (w := m) (by omega)
        (by omega), Nat.mul_comm 1024 m]
  · exact cacheSizesAgree (fun _ => rfl) raw raw'
  · exact cacheSizesAgree (fun _ => rfl) raw raw'
  · intro c hzero hsentinel hdword hdword' hqword'
    apply sameSize_of_view parseMemoryArray_eq
    · simp only [RawStructure.toMemoryArray, hdword, decodeCapacity_kb hsentinel,
        Nat.mul_comm c]
    · simp only [RawStructure.toMemoryArray, hdword', hqword']
      exact decodeCapacity_extended (by omega)
  · intro r hsentinel hdvd hbyte hbyte' hword'
    obtain ⟨m, hm⟩ := hdvd
    have hr : r < 256 := by
      obtain ⟨b, -, rfl⟩ := Option.map_eq_some_iff.mp hbyte
      exact b.toNat_lt
    rw [hm, Nat.mul_div_cancel_left m (by decide)] at hword'
    apply sameSize_of_view parseBios_eq
    · simp only [RawStructure.toBios, hbyte]
      exact decodeRomSize_legacy hsentinel
    · simp only [RawStructure.toBios, hbyte', hword', decodeRomSize_mb (n := m) (by omega)
        (by omega)]
      rw [hm]
      exact congrArg some (by omega)
  · intro g hpos hle hbyte hword hbyte' hword'
    apply sameSize_of_view parseBios_eq
    · simp only [RawStructure.toBios, hbyte, hword]
      exact decodeRomSize_gb (by omega)
    · rw [Nat.mul_comm] at hword'
      simp only [RawStructure.toBios, hbyte', hword']
      exact decodeRomSize_mb (by omega) (by omega)

/-- A size of every kind in both of its encodings: a module of 16 GB and one of 1 MB,
a cache of 64 KB with each of the two sentinels and in both units, an array of 1 MB,
and a ROM of 1 MB and one of 1 GB. -/
theorem sizeEncodings_agree_samples :
    SameSize parseMemoryDevice MemoryDevice.sizeBytes
      ⟨17, 0, List.replicate 8 0 ++ [0x00, 0x40], []⟩
      ⟨17, 0, List.replicate 8 0 ++ [0xFF, 0x7F] ++ List.replicate 14 0 ++
        [0x00, 0x40, 0x00, 0x00], []⟩ (16384 * 1024 * 1024) ∧
    SameSize parseMemoryDevice MemoryDevice.sizeBytes
      ⟨17, 0, List.replicate 8 0 ++ [0x00, 0x84], []⟩
      ⟨17, 0, List.replicate 8 0 ++ [0x01, 0x00], []⟩ (1024 * 1024) ∧
    SameSize parseCache CacheInfo.maxSizeBytes
      ⟨7, 0, List.replicate 3 0 ++ [0x01, 0x80], []⟩
      ⟨7, 0, List.replicate 3 0 ++ [0xFF, 0xFF] ++ List.replicate 10 0 ++
        [0x01, 0x00, 0x00, 0x80], []⟩ 65536 ∧
    SameSize parseCache CacheInfo.maxSizeBytes
      ⟨7, 0, List.replicate 3 0 ++ [0x01, 0x80], []⟩
      ⟨7, 0, List.replicate 3 0 ++ [0x40, 0x00], []⟩ 65536 ∧
    SameSize parseCache CacheInfo.installedSizeBytes
      ⟨7, 0, List.replicate 5 0 ++ [0x01, 0x80], []⟩
      ⟨7, 0, List.replicate 5 0 ++ [0xFF, 0xFF] ++ List.replicate 12 0 ++
        [0x01, 0x00, 0x00, 0x80], []⟩ 65536 ∧
    SameSize parseMemoryArray MemoryArray.maxCapacityBytes
      ⟨16, 0, List.replicate 3 0 ++ [0x00, 0x04, 0x00, 0x00], []⟩
      ⟨16, 0, List.replicate 6 0 ++ [0x80] ++ List.replicate 6 0 ++
        [0x10, 0x00, 0x00, 0x00, 0x00, 0x00], []⟩ (1024 * 1024) ∧
    SameSize parseBios BIOSInfo.romSizeBytes
      ⟨0, 0, List.replicate 5 0 ++ [0x0F], []⟩
      ⟨0, 0, List.replicate 5 0 ++ [0xFF] ++ List.replicate 14 0 ++ [0x01, 0x00], []⟩
      (16 * 65536) ∧
    SameSize parseBios BIOSInfo.romSizeBytes
      ⟨0, 0, List.replicate 5 0 ++ [0xFF] ++ List.replicate 14 0 ++ [0x01, 0x40], []⟩
      ⟨0, 0, List.replicate 5 0 ++ [0xFF] ++ List.replicate 14 0 ++ [0x00, 0x04], []⟩
      (1024 * 1024 * 1024) := by
  refine ⟨?_, ?_, ?_, ?_, ?_, ?_, ?_, ?_⟩
  · exact (sizeEncodings_agree _ _).1 16384 (by decide) (by decide) (by decide) (by decide)
      (by decide)
  · exact (sizeEncodings_agree _ _).2.1 1024 (by decide) (by decide) (by decide) (by decide)
      (by decide)
  · exact (sizeEncodings_agree _ _).2.2.1.extended 0x8001 (by decide) (by decide) (by decide)
      (by decide) (by decide)
  · exact (sizeEncodings_agree _ _).2.2.1.units 1 (by decide)
      (.narrow (by decide) (by decide) (by decide) (by decide))
      (.narrow (by decide) (by decide) (by decide) (by decide))
  · exact (sizeEncodings_agree _ _).2.2.2.1.extended 0x8001 (by decide) (by decide) (by decide)
      (by decide) (by decide)
  · exact (sizeEncodings_agree _ _).2.2.2.2.1 1024 (by decide) (by decide) (by decide)
      (by decide) (by decide)
  · exact (sizeEncodings_agree _ _).2.2.2.2.2.1 15 (by decide) (by decide) (by decide)
      (by decide) (by decide)
  · exact (sizeEncodings_agree _ _).2.2.2.2.2.2 1 (by decide) (by decide) (by decide)
      (by decide) (by decide) (by decide)

end TruenasPydmi
