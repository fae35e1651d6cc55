/-
  Read/Platform.lean --- the platform model of a machine.

  The model is a function of two texts, the product names of the first Type 1 and
  of the first Type 2 structure (`modelOf`).  It is the product name when that has
  a platform prefix, the X10 model when only the baseboard tells it, and the
  unknown marker otherwise; the marker has no platform prefix, so a name with one
  is never taken for it.  The two texts are stripped strings of the table, so that
  tables whose first structures differ in padding only have the same model.
-/
import Mathlib.Data.List.Forall2
import TruenasPydmi.Read.Outcome

set_option autoImplicit false

namespace TruenasPydmi

open TruenasPydmi.Foundation TruenasPydmi.Python

/-! ## The structures the model is taken from -/

/-- The first structure of its type. -/
def FirstOfType (raws : List RawStructure) (typeId : Nat) (r : RawStructure) : Prop :=
  r.type = typeId ∧ ∃ pre post, raws = pre ++ r :: post ∧ ∀ q ∈ pre, q.type ≠ typeId

/-- The product name of the first Type 1 structure. -/
def ProductName (raws : List RawStructure) (s : Str) : Prop :=
  ∃ r info, FirstOfType raws 1 r ∧ parseSystem r = .ok info ∧ info.productName = s

/-- The product of the first Type 2 structure is that of an X10. -/
def IsX10 (raws : List RawStructure) : Prop :=
  ∃ r info, FirstOfType raws 2 r ∧ parseBaseboard r = .ok info ∧
    info.product = "iXsystems TrueNAS X10".toList

/-- The text begins with a platform prefix. -/
def HasPrefix (s : Str) : Prop := ∃ p ∈ platformPrefixes, p <+: s

instance (s : Str) : Decidable (HasPrefix s) :=
  inferInstanceAs (Decidable (∃ p ∈ platformPrefixes, p <+: s))

/-- The product name of the first Type 1 structure begins with a platform
prefix. -/
def Named (raws : List RawStructure) : Prop := ∃ s, ProductName raws s ∧ HasPrefix s

/-! ## The model as a function of two texts -/

/-- The string at offset 1 of the first structure of a type: the product name of a
system and the product of a baseboard. -/
def productOf (raws : List RawStructure) (typeId : Nat) : Option Str :=
  (raws.find? fun r => r.type == typeId).map fun r => r.string 1

/-- The platform model of the two texts. -/
def modelOf (name product : Option Str) : Str :=
  match name.filter fun s => startsWithAny s platformPrefixes with
  | some name => name
  | none =>
      if product = some "iXsystems TrueNAS X10".toList then "TRUENAS-X".toList
      else truenasUnknown

section

variable {raws : List RawStructure} {typeId : Nat} {r : RawStructure}

theorem find?_type_eq_some_iff :
    (raws.find? fun r => r.type == typeId) = some r ↔ FirstOfType raws typeId r := by
  rw [List.find?_eq_some_iff_append, FirstOfType]
  simp only [beq_iff_eq, Bool.not_eq_true', beq_eq_false_iff_ne, ne_eq]

/-- What the first structure of a type is decoded to. -/
theorem exists_firstOfType_iff {α : Type} {parse : RawStructure → Except BuiltinError α}
    {view : RawStructure → α} (heq : ∀ r, parse r = .ok (view r)) {p : α → Prop} :
    (∃ r info, FirstOfType raws typeId r ∧ parse r = .ok info ∧ p info) ↔
      ∃ r, (raws.find? fun r => r.type == typeId) = some r ∧ p (view r) := by
  refine exists_congr fun r => ?_
  rw [exists_and_left, exists_eq_ok_and_iff (heq r), find?_type_eq_some_iff]

theorem productName_iff {s : Str} : ProductName raws s ↔ productOf raws 1 = some s := by
  rw [ProductName, exists_firstOfType_iff parseSystem_eq, productOf, Option.map_eq_some_iff]
  rfl

theorem isX10_iff :
    IsX10 raws ↔ productOf raws 2 = some "iXsystems TrueNAS X10".toList := by
  rw [IsX10, exists_firstOfType_iff parseBaseboard_eq, productOf, Option.map_eq_some_iff]
  rfl

theorem platformModel_eq (system : Option SystemInfo) (baseboards : List BaseboardInfo) :
    platformModel system baseboards = modelOf (system.map SystemInfo.productName)
      (baseboards.head?.map BaseboardInfo.product) := by
  have hX10 : (baseboards.head?.any fun b => b.product == "iXsystems TrueNAS X10".toList) = true ↔
      baseboards.head?.map BaseboardInfo.product = some "iXsystems TrueNAS X10".toList := by
    cases baseboards with
    | nil => simp
    | cons b baseboards => simp
  rw [platformModel, modelOf]
  simp only [hX10]
  cases system with
  | none => rfl
  | some system =>
      rw [Option.map_some, Option.filter_some, Option.filter_some]
      cases startsWithAny system.productName platformPrefixes with
      | true => rfl
      | false => rfl

/-- The model of an aggregate is that of its two texts. -/
theorem tnModel_dmiInfo (v : Nat × Nat) (raws : List RawStructure) :
    (dmiInfo v raws).tnModel = modelOf (productOf raws 1) (productOf raws 2) := by
  have hsystem : ((raws.find? fun r => r.type == 1).map RawStructure.toSystem).map
      SystemInfo.productName = productOf raws 1 := by
    rw [Option.map_map]
    rfl
  have hboard : ((raws.filter fun r => r.type == 2).map RawStructure.toBaseboard).head?.map
      BaseboardInfo.product = productOf raws 2 := by
    rw [List.head?_map, List.head?_filter, Option.map_map]
    rfl
  rw [dmiInfo]
  simp only [platformModel_eq, hsystem, hboard]

theorem startsWithAny_iff {s : Str} :
    startsWithAny s platformPrefixes = true ↔ HasPrefix s := by
  simp [startsWithAny, HasPrefix]

theorem not_hasPrefix_unknown : ¬ HasPrefix truenasUnknown := by
  decide

section

variable {name product : Option Str}

/-- A name with a platform prefix is the model. -/
theorem modelOf_of_hasPrefix {s : Str} (hs : HasPrefix s) : modelOf (some s) product = s := by
  rw [modelOf, Option.filter_some, startsWithAny_iff.mpr hs]
  rfl

/-- Without such a name the baseboard decides. -/
theorem modelOf_of_not_hasPrefix (h : ∀ s, name = some s → ¬ HasPrefix s) :
    modelOf name product =
      if product = some "iXsystems TrueNAS X10".toList then "TRUENAS-X".toList
      else truenasUnknown := by
  rw [modelOf]
  cases name with
  | none => rfl
  | some s =>
      have hs : startsWithAny s platformPrefixes = false := by
        rw [Bool.eq_false_iff, ne_eq, startsWithAny_iff]
        exact h s rfl
      rw [Option.filter_some, hs]
      rfl

end

/-! ## Which model it is -/

/-- What the model of a table says of its first Type 1 and Type 2 structures. -/
structure ModelExact (raws : List RawStructure) (tn : Str) : Prop where
  prefix_or_unknown : tn = truenasUnknown ∨ HasPrefix tn
  eq_productName_iff : ∀ s, ProductName raws s →
    (tn = s ↔ HasPrefix s ∨ (s = truenasUnknown ∧ ¬ IsX10 raws))
  eq_x10 : ¬ Named raws → IsX10 raws → tn = "TRUENAS-X".toList
  eq_unknown_iff : tn = truenasUnknown ↔ ¬ Named raws ∧ ¬ IsX10 raws

/-- The three ways a model is found. -/
theorem modelOf_cases (raws : List RawStructure) :
    (∃ s, ProductName raws s ∧ HasPrefix s ∧
      modelOf (productOf raws 1) (productOf raws 2) = s) ∨
    (¬ Named raws ∧ IsX10 raws ∧
      modelOf (productOf raws 1) (productOf raws 2) = "TRUENAS-X".toList) ∨
    (¬ Named raws ∧ ¬ IsX10 raws ∧
      modelOf (productOf raws 1) (productOf raws 2) = truenasUnknown) := by
  cases Classical.em (Named raws) with
  | inl hnamed =>
      obtain ⟨s, hs, hstarts⟩ := hnamed
      refine Or.inl ⟨s, hs, hstarts, ?_⟩
      rw [productName_iff.mp hs, modelOf_of_hasPrefix hstarts]
  | inr hnamed =>
      have hnone : ∀ s, productOf raws 1 = some s → ¬ HasPrefix s :=
        fun s hs hstarts => hnamed ⟨s, productName_iff.mpr hs, hstarts⟩
      rw [modelOf_of_not_hasPrefix hnone]
      cases Classical.em (IsX10 raws) with
      | inl hX10 => exact Or.inr (Or.inl ⟨hnamed, hX10, if_pos (isX10_iff.mp hX10)⟩)
      | inr hX10 =>
          exact Or.inr (Or.inr ⟨hnamed, hX10, if_neg fun h => hX10 (isX10_iff.mpr h)⟩)

theorem modelExact (raws : List RawStructure) :
    ModelExact raws (modelOf (productOf raws 1) (productOf raws 2)) := by
  have hX : HasPrefix "TRUENAS-X".toList := by decide
  rcases modelOf_cases raws with ⟨s, hs, hstarts, h⟩ | ⟨hnamed, hX10, h⟩ | ⟨hnamed, hX10, h⟩
  · have hnamed : Named raws := ⟨s, hs, hstarts⟩
    have hunknown : s ≠ truenasUnknown := fun heq => not_hasPrefix_unknown (heq ▸ hstarts)
    rw [h]
    refine ⟨Or.inr hstarts, fun t ht => ?_, fun hnot => absurd hnamed hnot,
      iff_of_false hunknown fun hnot => hnot.1 hnamed⟩
    obtain rfl : s = t := by simpa [productName_iff.mp hs] using productName_iff.mp ht
    exact iff_of_true rfl (Or.inl hstarts)
  · have hunknown : "TRUENAS-X".toList ≠ truenasUnknown := by decide
    rw [h]
    refine ⟨Or.inr hX, fun t ht => iff_of_false ?_ ?_, fun _ _ => rfl,
      iff_of_false hunknown fun hnot => hnot.2 hX10⟩
    · rintro rfl
      exact hnamed ⟨_, ht, hX⟩
    · rintro (hstarts | ⟨-, hnot⟩)
      · exact hnamed ⟨t, ht, hstarts⟩
      · exact hnot hX10
  · rw [h]
    refine ⟨Or.inl rfl, fun t ht => ?_, fun _ hX10' => absurd hX10' hX10,
      iff_of_true rfl ⟨hnamed, hX10⟩⟩
    constructor
    · intro heq
      exact Or.inr ⟨heq.symm, hX10⟩
    · rintro (hstarts | ⟨heq, -⟩)
      · exact absurd ⟨t, ht, hstarts⟩ hnamed
      · exact heq.symm

end

/-! ## Padding in the table -/

/-- The octets of a padding are whitespace. -/
def IsPadding (b : Bytes) : Prop := ∀ c ∈ decodeLatin1 b, isSpace c = true

/-- Two raw strings that differ only by the whitespace around them. -/
def SamePadded (b b' : Bytes) : Prop :=
  ∃ core l r l' r', b = l ++ core ++ r ∧ b' = l' ++ core ++ r' ∧
    (IsPadding l ∧ IsPadding r) ∧ IsPadding l' ∧ IsPadding r'

theorem text_append_append {l core r : Bytes} (hl : IsPadding l) (hr : IsPadding r) :
    text (l ++ core ++ r) = text core := by
  rw [text, text, decodeLatin1, List.map_append, List.map_append]
  exact strip_append_append hl hr

theorem SamePadded.text_eq {b b' : Bytes} (h : SamePadded b b') : text b = text b' := by
  obtain ⟨core, l, r, l', r', rfl, rfl, ⟨hl, hr⟩, hl', hr'⟩ := h
  rw [text_append_append hl hr, text_append_append hl' hr']

/-- The strings of a structure as they stand in the table. -/
def Frame.rawStrings (buf : Bytes) (fr : Frame) : List Bytes :=
  if fr.term = fr.formattedEnd then [] else segments 0 buf fr.formattedEnd fr.term

theorem Frame.decode_strings (buf : Bytes) (fr : Frame) :
    (fr.decode buf).strings = (fr.rawStrings buf).map text := by
  rw [Frame.decode, Frame.rawStrings, stringSet]
  split
  · rfl
  · rfl

/-- Structures of two tables with the same formatted bytes and the same strings but
for padding. -/
def SameContent (buf buf' : Bytes) (fr fr' : Frame) : Prop :=
  (fr.decode buf).formatted = (fr'.decode buf').formatted ∧
    List.Forall₂ SamePadded (fr.rawStrings buf) (fr'.rawStrings buf')

/-- The structures read from a table, as their places in it. -/
def ReadsFrames (epBytes buf : Bytes) (frs : List Frame) (d : DMIInfo) : Prop :=
  readTables epBytes buf = .ok d ∧ ∃ ep e, parseEntryPoint epBytes = .ok ep ∧
    Accepts buf (tableEnd buf ep.tableLength) 0 frs e

/-- The first structures of a type, if there are any, have the same content. -/
def SameFirst (buf buf' : Bytes) (frs frs' : List Frame) (typeId : Nat) : Prop :=
  Option.Rel (SameContent buf buf') (frs.find? fun fr => fr.type buf == typeId)
    (frs'.find? fun fr => fr.type buf' == typeId)

section

variable {buf buf' : Bytes} {fr fr' : Frame} {frs frs' : List Frame}

theorem SameContent.string_eq (h : SameContent buf buf' fr fr') (o : Nat) :
    (fr.decode buf).string o = (fr'.decode buf').string o := by
  obtain ⟨hformatted, hstrings⟩ := h
  have htexts : (fr.decode buf).strings = (fr'.decode buf').strings := by
    rw [Frame.decode_strings, Frame.decode_strings, ← List.forall₂_eq_eq_eq,
      List.forall₂_map_left_iff, List.forall₂_map_right_iff]
    exact hstrings.imp fun _ _ => SamePadded.text_eq
  rw [RawStructure.string, RawStructure.string, RawStructure.nthString, RawStructure.nthString,
    RawStructure.byte, RawStructure.byte, hformatted, htexts]

theorem productOf_map_decode (buf : Bytes) (frs : List Frame) (typeId : Nat) :
    productOf (frs.map (Frame.decode buf)) typeId =
      (frs.find? fun fr => fr.type buf == typeId).map fun fr => (fr.decode buf).string 1 := by
  rw [productOf, List.find?_map, Option.map_map]
  rfl

theorem SameFirst.productOf_eq {typeId : Nat} (h : SameFirst buf buf' frs frs' typeId) :
    productOf (frs.map (Frame.decode buf)) typeId =
      productOf (frs'.map (Frame.decode buf')) typeId := by
  rw [productOf_map_decode, productOf_map_decode]
  unfold SameFirst at h
  generalize frs.find? (fun fr => fr.type buf == typeId) = x at h ⊢
  generalize frs'.find? (fun fr => fr.type buf' == typeId) = x' at h ⊢
  cases h with
  | none => rfl
  | some hcontent => exact congrArg some (hcontent.string_eq 1)

theorem ReadsFrames.eq_dmiInfo {epBytes : Bytes} {d : DMIInfo}
    (h : ReadsFrames epBytes buf frs d) :
    ∃ v, d = dmiInfo v (frs.map (Frame.decode buf)) := by
  obtain ⟨hread, ep, e, hep, ha⟩ := h
  have hraws := walkStructures_ok_iff.mpr ⟨frs, e, ha, rfl⟩
  rw [readTables_of_parse hep hraws, Except.ok.injEq] at hread
  exact ⟨_, hread.symm⟩

theorem eq_dmiInfo_of_readTables {epBytes buf : Bytes} {d : DMIInfo}
    (h : readTables epBytes buf = .ok d) : ∃ v, d = dmiInfo v d.rawStructures := by
  rcases parseEntryPoint_outcome epBytes with ⟨ep, hep⟩ | ⟨message, o, hep⟩
  · rcases walkStructures_outcome buf ep.tableLength with ⟨raws, hraws⟩ | ⟨message, o, hraws⟩
    · rw [readTables_of_parse hep hraws, Except.ok.injEq] at h
      exact ⟨(ep.major, ep.minor), by rw [← h]; rfl⟩
    · simp [readTables, parseTables, hep, hraws] at h
  · simp [readTables, parseTables, hep] at h

end

/-! ## The platform of a table -/

/-- The model of an accepted table is exact, and two tables whose first Type 1 and
first Type 2 structures differ in padding only have the same model, whatever else
stands in them. -/
theorem tnModel_exact :
    (∀ (epBytes buf : Bytes) (d : DMIInfo), readTables epBytes buf = .ok d →
      ModelExact d.rawStructures d.tnModel) ∧
    ∀ (epBytes epBytes' buf buf' : Bytes) (frs frs' : List Frame) (d d' : DMIInfo),
      ReadsFrames epBytes buf frs d → ReadsFrames epBytes' buf' frs' d' →
      SameFirst buf buf' frs frs' 1 → SameFirst buf buf' frs frs' 2 →
      d.tnModel = d'.tnModel := by
  constructor
  · intro epBytes buf d hread
    obtain ⟨v, hd⟩ := eq_dmiInfo_of_readTables hread
    rw [hd, tnModel_dmiInfo]
    exact modelExact _
  · intro epBytes epBytes' buf buf' frs frs' d d' h h' hsystem hboard
    obtain ⟨v, rfl⟩ := h.eq_dmiInfo
    obtain ⟨v', rfl⟩ := h'.eq_dmiInfo
    rw [tnModel_dmiInfo, tnModel_dmiInfo, hsystem.productOf_eq, hboard.productOf_eq]

/-- A system named without padding, and one named with it behind an OEM structure. -/
theorem tnModel_exact_padded :
    let epBytes : Bytes :=
      [95, 83, 77, 51, 95, 0, 24, 3, 2, 0, 1, 0, 0, 0, 0, 0, 0, 0, 0, 0, 0, 0, 0, 0]
    let buf : Bytes := [1, 6, 0, 0, 0, 1, 84, 82, 85, 69, 78, 65, 83, 45, 77, 0, 0]
    let buf' : Bytes := [11, 4, 1, 0, 65, 0, 0,
      1, 6, 0, 0, 0, 1, 32, 84, 82, 85, 69, 78, 65, 83, 45, 77, 32, 0, 0]
    ∃ d d', readTables epBytes buf = .ok d ∧ readTables epBytes buf' = .ok d' ∧
      d.tnModel = d'.tnModel := by
  intro epBytes buf buf'
  have hep : parseEntryPoint epBytes =
      .ok { major := 3, minor := 2, revision := 1, tableLength := 0 } := by
    decide
  have hsystem : FrameAt buf 17 0 ⟨0, 6, 15⟩ 17 :=
    ⟨rfl, ⟨rfl, by decide, by decide, closes_of_doubled (by decide) rfl⟩, rfl⟩
  have hoem : FrameAt buf' 26 0 ⟨0, 4, 5⟩ 7 :=
    ⟨rfl, ⟨rfl, by decide, by decide, closes_of_doubled (by decide) rfl⟩, rfl⟩
  have hpadded : FrameAt buf' 26 7 ⟨7, 6, 24⟩ 26 :=
    ⟨rfl, ⟨rfl, by decide, by decide, closes_of_doubled (by decide) rfl⟩, rfl⟩
  have ha : Accepts buf 17 0 [⟨0, 6, 15⟩] 17 := .step hsystem (by decide) (.atEnd le_rfl)
  have ha' : Accepts buf' 26 0 [⟨0, 4, 5⟩, ⟨7, 6, 24⟩] 26 :=
    .step hoem (by decide) (.step hpadded (by decide) (.atEnd le_rfl))
  have hread := readTables_of_parse hep (walkStructures_ok_iff.mpr ⟨_, _, ha, rfl⟩)
  have hread' := readTables_of_parse hep (walkStructures_ok_iff.mpr ⟨_, _, ha', rfl⟩)
  have hcontent : SameContent buf buf' ⟨0, 6, 15⟩ ⟨7, 6, 24⟩ := by
    have hempty : IsPadding [] := by simp [IsPadding, decodeLatin1]
    have hspace : IsPadding [32] := by
      rw [IsPadding, decodeLatin1, List.map_singleton, List.forall_mem_singleton]
      decide
    exact ⟨by decide, .cons ⟨bytesLit "TRUENAS-M", [], [], [32], [32], by decide, by decide,
      ⟨hempty, hempty⟩, hspace, hspace⟩ .nil⟩
  exact ⟨_, _, hread, hread', tnModel_exact.2 _ _ _ _ _ _ _ _ ⟨hread, _, _, hep, ha⟩
    ⟨hread', _, _, hep, ha'⟩ (.some hcontent) .none⟩

/-- A product name that is the unknown marker itself is the model although it has no
platform prefix. -/
theorem not_tnModel_eq_iff_hasPrefix :
    ¬ ∀ (epBytes buf : Bytes) (d : DMIInfo), readTables epBytes buf = .ok d →
      ∀ s, ProductName d.rawStructures s → (d.tnModel = s ↔ HasPrefix s) := by
  intro h
  have hep : parseEntryPoint [95, 83, 77, 51, 95, 0, 24, 3, 2, 0, 1, 0, 0, 0, 0, 0, 0, 0, 0, 0, 0,
      0, 0, 0] = .ok { major := 3, minor := 2, revision := 1, tableLength := 0 } := by
    decide
  have hraws : walkStructures [1, 6, 0, 0, 0, 1, 84, 82, 85, 69, 78, 65, 83, 45, 85, 78, 75, 78,
      79, 87, 78, 0, 0] 0 = .ok [⟨1, 0, [0, 1], [truenasUnknown]⟩] := by
    decide
  have hname : ProductName [⟨1, 0, [0, 1], [truenasUnknown]⟩] truenasUnknown :=
    ⟨_, _, ⟨rfl, [], [], rfl, by simp⟩, parseSystem_eq _, rfl⟩
  have hiff := h _ _ _ (readTables_of_parse hep hraws) truenasUnknown hname
  exact not_hasPrefix_unknown (hiff.mp (by decide))

end TruenasPydmi
