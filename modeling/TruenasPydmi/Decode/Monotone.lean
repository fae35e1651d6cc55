/-
  Decode/Monotone.lean --- what a short structure says, a longer one says too.

  A structure grows when bytes are added behind its formatted area and strings
  behind its string set, as newer firmware does.  `ReadsOn` is what growing does
  to a view of the structure: a read that was cut off may succeed, any other read
  is unchanged.  `Kept` is what it does to a field of a record: a value that is
  not absent stays.  The fields that refer to a wider field by an escape value
  are the exceptions; `biosEscapes` and `processorEscapes` name them.
-/
import TruenasPydmi.Decode.Total

set_option autoImplicit false

namespace TruenasPydmi

open TruenasPydmi.Foundation TruenasPydmi.Python

/-! ## Growing -/

/-- The structure with bytes and strings added behind its own. -/
def RawStructure.extend (raw : RawStructure) (e : Bytes) (t : List Str) : RawStructure :=
  { raw with formatted := raw.formatted ++ e, strings := raw.strings ++ t }

@[simp] theorem RawStructure.extend_handle (raw : RawStructure) (e : Bytes) (t : List Str) :
    (raw.extend e t).handle = raw.handle := rfl

/-- The second read has the result of the first, unless the first was cut off. -/
def ReadsOn {α : Type} (x y : Option α) : Prop := x = none ∨ y = x

/-- The second value is the first, unless the first was absent. -/
def Kept {α : Type} [Truthy α] (a b : α) : Prop := truthy a = true → b = a

/-- Every field of the first record that is not absent has the same value in the
second, with the exception of the fields named. -/
def KeepsFields (escapes : List String) (short long : Fields) : Prop :=
  List.Forall₂ (fun a b => a.1 = b.1 ∧ (a.1 ∉ escapes → Kept a.2 b.2)) short long

section

variable {α β : Type} [Truthy α] [Truthy β]

@[simp] theorem Kept.refl (a : α) : Kept a a := fun _ => rfl

theorem Kept.of_not_truthy {a b : α} (h : truthy a = false) : Kept a b :=
  fun ha => by simp [h] at ha

/-- A function that keeps absence keeps values. -/
theorem Kept.map {a b : α} (h : Kept a b) (g : α → β)
    (hg : ∀ a, truthy a = false → truthy (g a) = false) : Kept (g a) (g b) := by
  cases ha : truthy a with
  | true => rw [h ha]; exact .refl _
  | false => exact .of_not_truthy (hg a ha)

theorem ReadsOn.kept {x y : Option Nat} (h : ReadsOn x y) (g : Option Nat → α)
    (hg : truthy (g none) = false) : Kept (g x) (g y) := by
  rcases h with rfl | rfl
  · exact .of_not_truthy hg
  · exact .refl _

/-- A decoder of two reads keeps its value when it gives none without the first
read, and when the second read only ever fills in an absent one. -/
theorem ReadsOn.kept₂ {x x' y y' : Option Nat} (hx : ReadsOn x x') (hy : ReadsOn y y')
    (g : Option Nat → Option Nat → α) (hnone : ∀ b, truthy (g none b) = false)
    (hsome : ∀ a b, Kept (g (some a) none) (g (some a) b)) : Kept (g x y) (g x' y') := by
  rcases hx with rfl | rfl
  · exact .of_not_truthy (hnone _)
  · rcases hy with rfl | rfl
    · cases x' with
      | none => exact .of_not_truthy (hnone _)
      | some a => exact hsome a y'
    · exact .refl _

variable [ToValue α]

/-- `KeepsFields` one field at a time. -/
@[simp] theorem keepsFields_cons {escapes : List String} {name : String} {a b : α}
    {short long : Fields} :
    KeepsFields escapes ((name, toValue a) :: short) ((name, toValue b) :: long) ↔
      (name ∈ escapes ∨ Kept (toValue a) (toValue b)) ∧ KeepsFields escapes short long := by
  rw [KeepsFields, List.forall₂_cons]
  simp only [KeepsFields, true_and, or_iff_not_imp_left]

@[simp] theorem keepsFields_nil {escapes : List String} : KeepsFields escapes [] [] :=
  .nil

theorem Kept.toValue {a b : α} (h : Kept a b) : Kept (toValue a) (toValue b) := by
  intro ha
  rw [truthy_toValue] at ha
  rw [h ha]

end

/-! ## The views of a structure that grows -/

section

variable (raw : RawStructure) (e : Bytes) (t : List Str) (o : Nat)

@[simp] theorem byte_readsOn : ReadsOn (raw.byte o) ((raw.extend e t).byte o) := by
  unfold ReadsOn RawStructure.byte RawStructure.extend
  by_cases h : o < raw.formatted.length
  · exact Or.inr (by rw [List.getElem?_append_left h])
  · exact Or.inl (by rw [List.getElem?_eq_none (by omega)]; rfl)

theorem slice_extend {i j : Nat} (h : j ≤ raw.formatted.length) :
    slice (raw.extend e t).formatted i j = slice raw.formatted i j := by
  rw [slice, slice, RawStructure.extend, List.take_append_of_le_length h]

theorem length_le_extend : raw.formatted.length ≤ (raw.extend e t).formatted.length := by
  simp [RawStructure.extend]

theorem field_readsOn (width : Nat) :
    ReadsOn (raw.field width o) ((raw.extend e t).field width o) := by
  have hle := length_le_extend raw e t
  unfold ReadsOn RawStructure.field
  by_cases h : o + width ≤ raw.formatted.length
  · rw [if_pos h, if_pos (by omega), slice_extend raw e t h]
    exact Or.inr rfl
  · exact Or.inl (if_neg h)

@[simp] theorem word_readsOn : ReadsOn (raw.word o) ((raw.extend e t).word o) :=
  field_readsOn raw e t o 2

@[simp] theorem dword_readsOn : ReadsOn (raw.dword o) ((raw.extend e t).dword o) :=
  field_readsOn raw e t o 4

@[simp] theorem qword_readsOn : ReadsOn (raw.qword o) ((raw.extend e t).qword o) :=
  field_readsOn raw e t o 8

theorem nthString_kept (index : Nat) :
    Kept (raw.nthString index) ((raw.extend e t).nthString index) := by
  intro h
  unfold RawStructure.nthString at h ⊢
  split
  · rfl
  · rename_i hindex
    rw [if_neg hindex, List.getD_eq_getElem?_getD] at h
    rw [List.getD_eq_getElem?_getD, List.getD_eq_getElem?_getD, RawStructure.extend]
    by_cases hlt : index - 1 < raw.strings.length
    · rw [List.getElem?_append_left hlt]
    · simp [List.getElem?_eq_none (Nat.le_of_not_lt hlt)] at h

theorem string_eq_nil_of_byte_eq_none {raw : RawStructure} {o : Nat} (h : raw.byte o = none) :
    raw.string o = [] := by
  simp [RawStructure.string, h, RawStructure.nthString]

@[simp] theorem string_kept : Kept (raw.string o) ((raw.extend e t).string o) := by
  rcases byte_readsOn raw e t o with h | h
  · rw [string_eq_nil_of_byte_eq_none h]
    exact .of_not_truthy rfl
  · rw [RawStructure.string, RawStructure.string, h]
    exact nthString_kept raw e t _

end

/-! ## The decoders -/

section

variable {x x' y y' : Option Nat}

@[simp] theorem ReadsOn.kept_self (h : ReadsOn x x') : Kept x x' :=
  h.kept id rfl

@[simp] theorem ReadsOn.kept_orZero (h : ReadsOn x x') : Kept (orZero x) (orZero x') :=
  h.kept orZero rfl

@[simp] theorem ReadsOn.kept_and (h : ReadsOn x x') (mask : Nat) :
    Kept (orZero x &&& mask) (orZero x' &&& mask) :=
  h.kept (fun x => orZero x &&& mask) (by simp [truthy])

@[simp] theorem ReadsOn.kept_shift_and (h : ReadsOn x x') (n mask : Nat) :
    Kept (orZero x >>> n &&& mask) (orZero x' >>> n &&& mask) :=
  h.kept (fun x => orZero x >>> n &&& mask) (by simp [truthy])

@[simp] theorem ReadsOn.kept_flag (h : ReadsOn x x') (mask : Nat) :
    Kept (truthy (orZero x &&& mask)) (truthy (orZero x' &&& mask)) :=
  h.kept (fun x => truthy (orZero x &&& mask)) (by simp [truthy])

@[simp] theorem ReadsOn.kept_noneIf (h : ReadsOn x x') (v : Nat) :
    Kept (noneIf v x) (noneIf v x') :=
  h.kept (noneIf v) (by simp [noneIf])

@[simp] theorem ReadsOn.kept_rank (h : ReadsOn x x') : Kept (decodeRank x) (decodeRank x') :=
  h.kept decodeRank rfl

@[simp] theorem ReadsOn.kept_extendedSize (h : ReadsOn x x') :
    Kept (decodeExtendedSize x) (decodeExtendedSize x') :=
  h.kept_noneIf _

@[simp] theorem ReadsOn.kept_extendedSpeed (h : ReadsOn x x') :
    Kept (decodeExtendedSpeed x) (decodeExtendedSpeed x') :=
  h.kept decodeExtendedSpeed rfl

@[simp] theorem ReadsOn.kept_cacheSize (hx : ReadsOn x x') (hy : ReadsOn y y') :
    Kept (decodeCacheSize x y) (decodeCacheSize x' y') := by
  refine hx.kept₂ hy decodeCacheSize (fun _ => rfl) fun a b => ?_
  unfold decodeCacheSize
  by_cases h0 : a = 0
  · simp [h0]
  · by_cases hescape : a = 0xFFFF
    · exact .of_not_truthy (by simp [hescape])
    · simp [h0, hescape]

@[simp] theorem ReadsOn.kept_memorySize (hx : ReadsOn x x') (hy : ReadsOn y y') :
    Kept (decodeMemorySize x y) (decodeMemorySize x' y') := by
  refine hx.kept₂ hy decodeMemorySize (fun _ => rfl) fun a b => ?_
  unfold decodeMemorySize
  by_cases hescape : a = 0x7FFF
  · exact .of_not_truthy (by simp [hescape])
  · simp [hescape]

@[simp] theorem kept_capacity (raw : RawStructure) (e : Bytes) (t : List Str) :
    Kept (decodeCapacity (raw.dword 3) (raw.qword 11))
      (decodeCapacity ((raw.extend e t).dword 3) ((raw.extend e t).qword 11)) := by
  rcases dword_readsOn raw e t 3 with h | h
  · -- without the 32-bit capacity there is no 64-bit one behind it
    have hq : raw.qword 11 = none := by
      simp only [RawStructure.dword, RawStructure.qword, RawStructure.field] at h ⊢
      split at h
      · simp at h
      · rw [if_neg (by omega)]
    exact .of_not_truthy (by simp [decodeCapacity, h, hq])
  · rw [h]
    rcases qword_readsOn raw e t 11 with hq | hq
    · unfold decodeCapacity
      split
      · exact .refl _
      · exact .of_not_truthy (by simp [hq])
    · rw [hq]
      exact .refl _

/-- A family that is not the escape value is kept. -/
theorem ReadsOn.kept_family (hx : ReadsOn x x') (hescape : x ≠ some 0xFE) :
    Kept (decodeFamily (orZero x) y) (decodeFamily (orZero x') y') := by
  have hfamily : ∀ n z, n ≠ 0xFE → decodeFamily n z = n := by
    intro n z hn
    cases z with
    | none => rfl
    | some m => simp [decodeFamily, hn]
  rcases hx with rfl | rfl
  · rw [orZero_none, hfamily 0 y (by decide)]
    exact .of_not_truthy rfl
  · cases x' with
    | none => rw [orZero_none, hfamily 0 y (by decide), hfamily 0 y' (by decide)]; exact .refl _
    | some n =>
        have hn : n ≠ 0xFE := by simpa using hescape
        rw [orZero_some, hfamily n y hn, hfamily n y' hn]
        exact .refl _

/-- A count that is not the escape value is kept. -/
theorem ReadsOn.kept_resolve (hx : ReadsOn x x') (hescape : x ≠ some 0xFF) :
    Kept (resolve x y) (resolve x' y') := by
  rcases hx with rfl | rfl
  · exact .of_not_truthy rfl
  · cases x' with
    | none => exact .refl _
    | some n =>
        have hn : n ≠ 0xFF := by simpa using hescape
        simp [resolve, hn]

/-- A ROM size that is not the escape value is kept. -/
theorem ReadsOn.kept_romSize (hx : ReadsOn x x') (hescape : x ≠ some 0xFF) :
    Kept (decodeRomSize x y) (decodeRomSize x' y') := by
  rcases hx with rfl | rfl
  · exact .of_not_truthy rfl
  · cases x' with
    | none => exact .refl _
    | some n =>
        have hn : n ≠ 0xFF := by simpa using hescape
        simp [decodeRomSize, hn]

end

section

variable (raw : RawStructure) (e : Bytes) (t : List Str)

@[simp] theorem releaseDate_kept (o : Nat) :
    Kept (releaseDate (raw.string o)) (releaseDate ((raw.extend e t).string o)) := by
  refine (string_kept raw e t o).map releaseDate fun s hs => ?_
  obtain rfl : s = [] := by simpa [truthy] using hs
  rfl

/-- What is decoded from a slice, or absent where the slice is cut off. -/
theorem slice_kept {α : Type} [Truthy α] {n i j : Nat} (hj : j ≤ n) (g : Bytes → α) {d : α}
    (hd : truthy d = false) :
    Kept (if n ≤ raw.formatted.length then g (slice raw.formatted i j) else d)
      (if n ≤ (raw.extend e t).formatted.length then g (slice (raw.extend e t).formatted i j)
        else d) := by
  have hle := length_le_extend raw e t
  by_cases h : n ≤ raw.formatted.length
  · rw [if_pos h, if_pos (h.trans hle), slice_extend raw e t (hj.trans h)]
    exact .refl _
  · rw [if_neg h]
    exact .of_not_truthy hd

@[simp] theorem uuid_kept : Kept raw.uuid (raw.extend e t).uuid :=
  slice_kept raw e t le_rfl
    (fun b => if b = List.replicate 16 0 then none else (uuidOfBytesLE b).toOption) rfl

@[simp] theorem processorId_kept :
    Kept (if raw.formatted.length ≥ 12 then slice raw.formatted 4 12 else [])
      (if (raw.extend e t).formatted.length ≥ 12 then slice (raw.extend e t).formatted 4 12
        else []) :=
  slice_kept raw e t le_rfl id rfl

@[simp] theorem vendorId_kept :
    Kept (decodeLatin1 (rstripNul raw.vendorBytes))
      (decodeLatin1 (rstripNul (raw.extend e t).vendorBytes)) := by
  have hbytes : Kept raw.vendorBytes (raw.extend e t).vendorBytes :=
    slice_kept raw e t le_rfl id rfl
  refine hbytes.map (fun b => decodeLatin1 (rstripNul b)) fun b hb => ?_
  obtain rfl : b = [] := by simpa [truthy] using hb
  rfl

theorem byte_eq_none_of_le {o o' : Nat} (h : raw.byte o = none) (ho : o ≤ o') :
    raw.byte o' = none := by
  simp only [RawStructure.byte, Option.map_eq_none_iff, List.getElem?_eq_none_iff] at h ⊢
  omega

/-- The SKU index is read at a computed offset; where it can be read at all, the
bytes the offset is computed from are there. -/
@[simp] theorem sku_kept :
    Kept (raw.string raw.skuOffset) ((raw.extend e t).string (raw.extend e t).skuOffset) := by
  have hsku : 17 ≤ raw.skuOffset := Nat.le_add_right _ _
  have hcut : ∀ o, o ≤ 17 → raw.byte o = none →
      Kept (raw.string raw.skuOffset) ((raw.extend e t).string (raw.extend e t).skuOffset) := by
    intro o ho h
    rw [string_eq_nil_of_byte_eq_none (byte_eq_none_of_le raw h (Nat.le_trans ho hsku))]
    exact .of_not_truthy rfl
  rcases byte_readsOn raw e t 15 with hn | hn
  · exact hcut 15 (by omega) hn
  · rcases byte_readsOn raw e t 16 with hm | hm
    · exact hcut 16 (by omega) hm
    · have : (raw.extend e t).skuOffset = raw.skuOffset := by
        rw [RawStructure.skuOffset, RawStructure.skuOffset, hn, hm]
      rw [this]
      exact string_kept raw e t _

end

/-! ## The parsers -/

/-- A parser keeps the fields of every structure that grows. -/
def Monotone {α : Type} (parse : RawStructure → Except BuiltinError α) (asFields : α → Fields)
    (escapes : Bytes → List String) : Prop :=
  ∀ (type handle : Nat) (f e : Bytes) (s t : List Str), ∃ short long,
    parse { type := type, handle := handle, formatted := f, strings := s } = .ok short ∧
    parse { type := type, handle := handle, formatted := f ++ e, strings := s ++ t } = .ok long ∧
    KeepsFields (escapes f) (asFields short) (asFields long)

theorem monotone_of_view {α : Type} {parse : RawStructure → Except BuiltinError α}
    {asFields : α → Fields} {escapes : Bytes → List String} {view : RawStructure → α}
    (heq : ∀ raw, parse raw = .ok (view raw))
    (hkeeps : ∀ (raw : RawStructure) (e : Bytes) (t : List Str),
      KeepsFields (escapes raw.formatted) (asFields (view raw))
        (asFields (view (raw.extend e t)))) :
    Monotone parse asFields escapes :=
  fun type handle f e s t => ⟨_, _, heq _, heq _, hkeeps ⟨type, handle, f, s⟩ e t⟩

/-- The fields of a `BIOSInfo` that growing may change: the ROM size behind its
escape, and the extension bytes, which grow themselves. -/
def biosEscapes (f : Bytes) : List String :=
  "characteristics_extension" :: if f[5]? = some 0xFF then ["rom_size_bytes"] else []

/-- The fields of a `ProcessorInfo` that stand behind an escape. -/
def processorEscapes (f : Bytes) : List String :=
  (if f[2]? = some 0xFE then ["family"] else []) ++
    (if f[31]? = some 0xFF then ["core_count"] else []) ++
    (if f[32]? = some 0xFF then ["cores_enabled"] else []) ++
    (if f[33]? = some 0xFF then ["thread_count"] else [])

theorem byte_eq_some_iff {raw : RawStructure} {o : Nat} {b : UInt8} :
    raw.byte o = some b.toNat ↔ raw.formatted[o]? = some b := by
  simp [RawStructure.byte, UInt8.toNat_inj]

/-- A field behind an escape byte is kept unless the byte escapes. -/
theorem escapes_or_kept {α : Type} [Truthy α] [ToValue α] {raw : RawStructure} {o : Nat}
    {b : UInt8} {escapes : Prop} {x y : α} (hescapes : raw.formatted[o]? = some b → escapes)
    (hkept : raw.byte o ≠ some b.toNat → Kept x y) :
    escapes ∨ Kept (toValue x) (toValue y) := by
  by_cases h : raw.formatted[o]? = some b
  · exact Or.inl (hescapes h)
  · exact Or.inr (hkept fun hb => h (byte_eq_some_iff.mp hb)).toValue

theorem parseBios_monotone : Monotone parseBios BIOSInfo.asFields biosEscapes := by
  refine monotone_of_view parseBios_eq fun raw e t => ?_
  have hrom : "rom_size_bytes" ∈ biosEscapes raw.formatted ∨
      Kept (toValue (decodeRomSize (raw.byte 5) (raw.word 20)))
        (toValue (decodeRomSize ((raw.extend e t).byte 5) ((raw.extend e t).word 20))) :=
    escapes_or_kept (b := 0xFF) (fun h => by simp [biosEscapes, h])
      (byte_readsOn raw e t 5).kept_romSize
  have hext : "characteristics_extension" ∈ biosEscapes raw.formatted := by simp [biosEscapes]
  simp [BIOSInfo.asFields, RawStructure.toBios, Kept.toValue, hrom, hext]

/-- The extension bytes of a structure that grows begin with those it had. -/
theorem parseBios_extension_prefix (type handle : Nat) (f e : Bytes) (s t : List Str) :
    ∃ short long,
      parseBios { type := type, handle := handle, formatted := f, strings := s } = .ok short ∧
      parseBios { type := type, handle := handle, formatted := f ++ e, strings := s ++ t } =
        .ok long ∧
      short.characteristicsExtension <+: long.characteristicsExtension := by
  refine ⟨_, _, parseBios_eq _, parseBios_eq _, ?_⟩
  simp only [RawStructure.toBios, List.drop_append]
  exact List.prefix_append _ _

theorem parseSystem_monotone : Monotone parseSystem SystemInfo.asFields fun _ => [] := by
  refine monotone_of_view parseSystem_eq fun raw e t => ?_
  simp [SystemInfo.asFields, RawStructure.toSystem, Kept.toValue]

theorem parseBaseboard_monotone :
    Monotone parseBaseboard BaseboardInfo.asFields fun _ => [] := by
  refine monotone_of_view parseBaseboard_eq fun raw e t => ?_
  simp [BaseboardInfo.asFields, RawStructure.toBaseboard, Kept.toValue]

theorem parseChassis_monotone : Monotone parseChassis ChassisInfo.asFields fun _ => [] := by
  refine monotone_of_view parseChassis_eq fun raw e t => ?_
  simp [ChassisInfo.asFields, RawStructure.toChassis, Kept.toValue]

theorem parseProcessor_monotone :
    Monotone parseProcessor ProcessorInfo.asFields processorEscapes := by
  refine monotone_of_view parseProcessor_eq fun raw e t => ?_
  have hfamily : "family" ∈ processorEscapes raw.formatted ∨
      Kept (toValue (decodeFamily (orZero (raw.byte 2)) (raw.word 36)))
        (toValue (decodeFamily (orZero ((raw.extend e t).byte 2))
          ((raw.extend e t).word 36))) :=
    escapes_or_kept (b := 0xFE) (fun h => by simp [processorEscapes, h])
      (byte_readsOn raw e t 2).kept_family
  have hcount : ∀ (name : String) (o wide : Nat),
      (raw.formatted[o]? = some 0xFF → name ∈ processorEscapes raw.formatted) →
      name ∈ processorEscapes raw.formatted ∨
        Kept (toValue (resolve (raw.byte o) (raw.word wide)))
          (toValue (resolve ((raw.extend e t).byte o) ((raw.extend e t).word wide))) :=
    fun _ o _ hname => escapes_or_kept (b := 0xFF) hname (byte_readsOn raw e t o).kept_resolve
  have hcores := hcount "core_count" 31 38 fun h => by simp [processorEscapes, h]
  have henabled := hcount "cores_enabled" 32 40 fun h => by simp [processorEscapes, h]
  have hthreads := hcount "thread_count" 33 42 fun h => by simp [processorEscapes, h]
  simp [ProcessorInfo.asFields, RawStructure.toProcessor, Kept.toValue, hfamily, hcores,
    henabled, hthreads]

theorem parseCache_monotone : Monotone parseCache CacheInfo.asFields fun _ => [] := by
  refine monotone_of_view parseCache_eq fun raw e t => ?_
  simp [CacheInfo.asFields, RawStructure.toCache, Kept.toValue]

theorem parseSystemSlot_monotone :
    Monotone parseSystemSlot SystemSlot.asFields fun _ => [] := by
  refine monotone_of_view parseSystemSlot_eq fun raw e t => ?_
  simp [SystemSlot.asFields, RawStructure.toSystemSlot, Kept.toValue]

theorem parseMemoryArray_monotone :
    Monotone parseMemoryArray MemoryArray.asFields fun _ => [] := by
  refine monotone_of_view parseMemoryArray_eq fun raw e t => ?_
  simp [MemoryArray.asFields, RawStructure.toMemoryArray, Kept.toValue]

theorem parseMemoryDevice_monotone :
    Monotone parseMemoryDevice MemoryDevice.asFields fun _ => [] := by
  refine monotone_of_view parseMemoryDevice_eq fun raw e t => ?_
  simp [MemoryDevice.asFields, RawStructure.toMemoryDevice, Kept.toValue]

theorem parseIpmiDevice_monotone :
    Monotone parseIpmiDevice IPMIDevice.asFields fun _ => [] := by
  refine monotone_of_view parseIpmiDevice_eq fun raw e t => ?_
  simp [IPMIDevice.asFields, RawStructure.toIpmiDevice, Kept.toValue]

theorem parseTpmDevice_monotone : Monotone parseTpmDevice TPMDevice.asFields fun _ => [] := by
  refine monotone_of_view parseTpmDevice_eq fun raw e t => ?_
  simp [TPMDevice.asFields, RawStructure.toTpmDevice, Kept.toValue]

/-- Every typed parser is monotone.  The fields behind an escape value are the
only exceptions, and the extension bytes of the BIOS characteristics grow at
their end. -/
theorem parsers_monotone :
    Monotone parseBios BIOSInfo.asFields biosEscapes ∧
    (∀ (type handle : Nat) (f e : Bytes) (s t : List Str), ∃ short long,
      parseBios { type := type, handle := handle, formatted := f, strings := s } = .ok short ∧
      parseBios { type := type, handle := handle, formatted := f ++ e, strings := s ++ t } =
        .ok long ∧
      short.characteristicsExtension <+: long.characteristicsExtension) ∧
    Monotone parseSystem SystemInfo.asFields (fun _ => []) ∧
    Monotone parseBaseboard BaseboardInfo.asFields (fun _ => []) ∧
    Monotone parseChassis ChassisInfo.asFields (fun _ => []) ∧
    Monotone parseProcessor ProcessorInfo.asFields processorEscapes ∧
    Monotone parseCache CacheInfo.asFields (fun _ => []) ∧
    Monotone parseSystemSlot SystemSlot.asFields (fun _ => []) ∧
    Monotone parseMemoryArray MemoryArray.asFields (fun _ => []) ∧
    Monotone parseMemoryDevice MemoryDevice.asFields (fun _ => []) ∧
    Monotone parseIpmiDevice IPMIDevice.asFields (fun _ => []) ∧
    Monotone parseTpmDevice TPMDevice.asFields (fun _ => []) :=
  ⟨parseBios_monotone, parseBios_extension_prefix, parseSystem_monotone,
    parseBaseboard_monotone, parseChassis_monotone, parseProcessor_monotone,
    parseCache_monotone, parseSystemSlot_monotone, parseMemoryArray_monotone,
    parseMemoryDevice_monotone, parseIpmiDevice_monotone, parseTpmDevice_monotone⟩

end TruenasPydmi
