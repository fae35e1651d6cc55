/-
  Decode/Names.lean --- which codes a name tells apart.

  A listed code has the text of its table, any other one a text with its digits.  Two
  codes have one name only if the table gives one text to both, and the seventeen
  tables hardly do (`codeNames_exact`).
-/
import TruenasPydmi.Foundation.Flags
import TruenasPydmi.Names

set_option autoImplicit false

namespace TruenasPydmi

open TruenasPydmi.Foundation TruenasPydmi.Python

/-! ## Texts by their octets -/

/-- The octets of a text, which evaluate faster than its characters. -/
def octets (s : String) : List UInt8 := s.toByteArray.data.toList

theorem octets_inj {s t : String} : octets s = octets t ↔ s = t := by
  constructor
  · intro h
    exact String.toByteArray_inj.mp (ByteArray.ext (Array.toList_inj.mp h))
  · rintro rfl
    rfl

theorem octets_append (s t : String) : octets (s ++ t) = octets s ++ octets t := by
  rw [octets, String.toByteArray_append, ByteArray.data_append, Array.toList_append]
  rfl

/-! ## Lookup -/

/-- The codes of a table that do not have a text of their own: two entries with one
text have their codes among them, and these have one text.  No listed text begins like
that of an unlisted code. -/
structure NameTable.Shares (table : NameTable) (shared : List Nat) : Prop where
  texts : table.Pairwise fun a b => octets a.2 = octets b.2 → a.1 ∈ shared ∧ b.1 ∈ shared
  same : ∀ a ∈ shared, ∀ b ∈ shared, octets (lookup table a) = octets (lookup table b)
  listed : ∀ entry ∈ table, ¬ octets "Unknown(0x" <+: octets entry.2

instance (table : NameTable) (shared : List Nat) : Decidable (table.Shares shared) :=
  decidable_of_iff
    (table.Pairwise (fun a b => octets a.2 = octets b.2 → a.1 ∈ shared ∧ b.1 ∈ shared) ∧
      (∀ a ∈ shared, ∀ b ∈ shared, octets (lookup table a) = octets (lookup table b)) ∧
      ∀ entry ∈ table, ¬ octets "Unknown(0x" <+: octets entry.2)
    ⟨fun ⟨htexts, hsame, hlisted⟩ => ⟨htexts, hsame, hlisted⟩,
      fun ⟨htexts, hsame, hlisted⟩ => ⟨htexts, hsame, hlisted⟩⟩

theorem unknownName_inj {v w : Int} (h : unknownName v = unknownName w) : v = w := by
  have hlist := congrArg String.toList h
  simp only [unknownName, String.toList_append, String.toList_ofList, List.append_assoc] at hlist
  exact formatHex2_inj (List.append_cancel_right (List.append_cancel_left hlist))

theorem prefix_unknownName (v : Int) : octets "Unknown(0x" <+: octets (unknownName v) := by
  rw [unknownName, octets_append, octets_append, List.append_assoc]
  exact List.prefix_append _ _

theorem NameTable.get?_eq_some {table : NameTable} {v : Int} {text : String}
    (h : table.get? v = some text) : ∃ entry ∈ table, (entry.1 : Int) = v ∧ entry.2 = text := by
  obtain ⟨entry, hentry, rfl⟩ := Option.map_eq_some_iff.mp h
  exact ⟨entry, List.mem_of_find?_eq_some hentry, by simpa using List.find?_some hentry, rfl⟩

/-- Two codes have one name if they are one code, or are among those that share. -/
theorem NameTable.Shares.lookup_eq_iff {table : NameTable} {shared : List Nat}
    (h : table.Shares shared) (v w : Int) : lookup table v = lookup table w ↔
      v = w ∨ (∃ a ∈ shared, v = a) ∧ ∃ b ∈ shared, w = b := by
  constructor
  · intro heq
    have hunknown : ∀ {text : String} {u u' : Int}, table.get? u = some text →
        text ≠ unknownName u' := by
      rintro text u u' hget rfl
      obtain ⟨entry, hentry, -, htext⟩ := get?_eq_some hget
      exact h.listed entry hentry (htext ▸ prefix_unknownName u')
    unfold lookup at heq
    cases hv : table.get? v with
    | none =>
        cases hw : table.get? w with
        | none =>
            rw [hv, hw] at heq
            exact Or.inl (unknownName_inj heq)
        | some text =>
            rw [hv, hw] at heq
            exact absurd heq.symm (hunknown hw)
    | some text =>
        cases hw : table.get? w with
        | none =>
            rw [hv, hw] at heq
            exact absurd heq (hunknown hv)
        | some text' =>
            rw [hv, hw, Option.getD_some, Option.getD_some] at heq
            obtain ⟨a, ha, rfl, rfl⟩ := get?_eq_some hv
            obtain ⟨b, hb, rfl, rfl⟩ := get?_eq_some hw
            by_cases hab : a = b
            · exact Or.inl (by rw [hab])
            · have : Std.Symm fun a b : Nat × String =>
                  octets a.2 = octets b.2 → a.1 ∈ shared ∧ b.1 ∈ shared :=
                ⟨fun _ _ hxy heq' => (hxy heq'.symm).symm⟩
              obtain ⟨ha', hb'⟩ := h.texts.forall ha hb hab (congrArg octets heq)
              exact Or.inr ⟨⟨a.1, ha', rfl⟩, b.1, hb', rfl⟩
  · rintro (rfl | ⟨⟨a, ha, rfl⟩, b, hb, rfl⟩)
    · rfl
    · exact octets_inj.mp (h.same a ha b hb)

/-- Where no code shares its text, the name tells the code. -/
theorem NameTable.Shares.lookup_inj {table : NameTable} (h : table.Shares []) (v w : Int) :
    lookup table v = lookup table w ↔ v = w := by
  simp [h.lookup_eq_iff v w]

/-! ## Masks -/

/-- Masking with the low `n + 1` bits keeps these. -/
theorem land_mask_eq_iff (v w : Int) (n : Nat) :
    Int.land v ((2 ^ (n + 1) - 1 : Nat) : Int) = Int.land w ((2 ^ (n + 1) - 1 : Nat) : Int) ↔
      AgreeOnBits v w 0 n := by
  have hbit : ∀ u : Int, ∀ k, (Int.land u ((2 ^ (n + 1) - 1 : Nat) : Int)).testBit k =
      (u.testBit k && decide (k < n + 1)) := by
    intro u k
    rw [Int.testBit_land, testBit_natCast, Nat.testBit_two_pow_sub_one]
  have hnat : ∀ u : Int, ∃ r : Nat, Int.land u ((2 ^ (n + 1) - 1 : Nat) : Int) = r := by
    intro u
    cases u with
    | ofNat m => exact ⟨_, rfl⟩
    | negSucc m => exact ⟨_, rfl⟩
  constructor
  · intro heq k _ hk
    have hk' := hbit v k
    rw [heq, hbit w k, decide_eq_true (by omega), Bool.and_true, Bool.and_true] at hk'
    exact hk'.symm
  · intro hagree
    obtain ⟨r, hr⟩ := hnat v
    obtain ⟨r', hr'⟩ := hnat w
    rw [hr, hr']
    refine congrArg Int.ofNat (Nat.eq_of_testBit_eq fun k => ?_)
    rw [← testBit_natCast, ← testBit_natCast, ← hr, ← hr', hbit, hbit]
    by_cases hk : k < n + 1
    · rw [hagree k (Nat.zero_le k) (by omega)]
    · rw [decide_eq_false hk, Bool.and_false, Bool.and_false]

/-! ## The tables -/

/-- The tables whose texts are all different. -/
def plainTables : List NameTable :=
  [wakeUpTypes, chassisTypes, processorTypes, slotTypes, slotUsage, slotLengths,
    memoryErrorCorrection, memoryFormFactors, memoryTechnologies, cacheErrorCorrection,
    cacheSystemTypes, cacheAssociativities, cacheLocations, cacheOperationalModes,
    ipmiInterfaceTypes]

theorem plainTables_share : ∀ table ∈ plainTables, table.Shares [] := by decide +kernel

theorem memoryTypes_share : memoryTypes.Shares [0x15, 0x16, 0x17] := by decide +kernel

theorem processorFamilies_share : processorFamilies.Shares [0x103, 0x118] := by decide +kernel

/-- Every name stands for one code, whatever integers are looked up, but for these: the
lock bit is not part of a chassis type, two processor families are called `ARM`, and
three memory types are called `Reserved`. -/
theorem codeNames_exact (v w : Int) :
    (wakeUpTypeName v = wakeUpTypeName w ↔ v = w) ∧
    (chassisTypeName v = chassisTypeName w ↔ AgreeOnBits v w 0 6) ∧
    (processorTypeName v = processorTypeName w ↔ v = w) ∧
    (processorFamilyName v = processorFamilyName w ↔
      v = w ∨ (v = 0x103 ∨ v = 0x118) ∧ (w = 0x103 ∨ w = 0x118)) ∧
    (slotTypeName v = slotTypeName w ↔ v = w) ∧
    (slotUsageName v = slotUsageName w ↔ v = w) ∧
    (slotLengthName v = slotLengthName w ↔ v = w) ∧
    (memoryErrorCorrectionName v = memoryErrorCorrectionName w ↔ v = w) ∧
    (memoryFormFactorName v = memoryFormFactorName w ↔ v = w) ∧
    (memoryTypeName v = memoryTypeName w ↔
      v = w ∨ (v = 0x15 ∨ v = 0x16 ∨ v = 0x17) ∧ (w = 0x15 ∨ w = 0x16 ∨ w = 0x17)) ∧
    (memoryTechnologyName v = memoryTechnologyName w ↔ v = w) ∧
    (cacheErrorCorrectionName v = cacheErrorCorrectionName w ↔ v = w) ∧
    (cacheSystemTypeName v = cacheSystemTypeName w ↔ v = w) ∧
    (cacheAssociativityName v = cacheAssociativityName w ↔ v = w) ∧
    (cacheLocationName v = cacheLocationName w ↔ v = w) ∧
    (cacheOperationalModeName v = cacheOperationalModeName w ↔ v = w) ∧
    (ipmiInterfaceTypeName v = ipmiInterfaceTypeName w ↔ v = w) := by
  have hplain : ∀ table ∈ plainTables, ∀ v w, lookup table v = lookup table w ↔ v = w :=
    fun table htable => (plainTables_share table htable).lookup_inj
  simp only [plainTables, List.forall_mem_cons] at hplain
  obtain ⟨hwake, hchassis, hprocessor, hslot, husage, hlength, hcorrection, hform, htechnology,
    hcache, hsystem, hassociativity, hlocation, hmode, hipmi, -⟩ := hplain
  refine ⟨hwake v w, ?_, hprocessor v w, ?_, hslot v w, husage v w, hlength v w,
    hcorrection v w, hform v w, ?_, htechnology v w, hcache v w, hsystem v w,
    hassociativity v w, hlocation v w, hmode v w, hipmi v w⟩
  · exact (hchassis _ _).trans (land_mask_eq_iff v w 6)
  · rw [processorFamilyName, processorFamilyName, processorFamilies_share.lookup_eq_iff]
    simp
  · rw [memoryTypeName, memoryTypeName, memoryTypes_share.lookup_eq_iff]
    simp

end TruenasPydmi
