/-
  Sanitize/Preserve.lean --- what sanitizing leaves as it was.

  `RawStructure.SanitizedTo` says what the sanitizer does to a structure: the bytes of
  a UUID are zero, a string that a sensitive field designates is a run of the letter
  `A`, and everything else is the same.  A record that is read from such a structure
  is the same in every field but the UUID and the texts that are now placeholders
  (`RecordSanitized`), and a record of a type that has no sensitive fields is the same
  altogether.  The platform model is taken from two texts that may be placeholders
  now, so it is derived anew.
-/
import Mathlib.Data.List.Forall2
import TruenasPydmi.Read.Platform
import TruenasPydmi.Sanitize.Log
import TruenasPydmi.Sanitize.Leak

set_option autoImplicit false

namespace TruenasPydmi

open TruenasPydmi.Foundation TruenasPydmi.Python

/-! ## Structures -/

/-- Some sensitive field of the structure holds this string index. -/
def RawStructure.Designates (r : RawStructure) (stringIdx : Nat) : Prop :=
  ∃ field ∈ sensitiveStringFields, field.1.1 = r.type ∧ r.byte field.1.2 = some stringIdx

/-- A run of the letter `A` stands for the text.  It is as long as the string was
before it was stripped. -/
def Placeholder (s s' : Str) : Prop := ∃ n, s.length ≤ n ∧ s' = List.replicate n 'A'

/-- The structure `r'` is `r` with its UUID zeroed and with placeholders for the
strings that sensitive fields designate. -/
structure RawStructure.SanitizedTo (r r' : RawStructure) : Prop where
  type_eq : r'.type = r.type
  handle_eq : r'.handle = r.handle
  formatted : ∀ k : Nat, r'.formatted[k]? =
    if r.type = 1 ∧ 20 ≤ r.formatted.length ∧ 4 ≤ k ∧ k < 20 then some 0 else r.formatted[k]?
  length_strings : r'.strings.length = r.strings.length
  string : ∀ (k : Nat) (s s' : Str), r.strings[k]? = some s → r'.strings[k]? = some s' →
    (r.Designates (k + 1) → Placeholder s s') ∧ (¬ r.Designates (k + 1) → s' = s)
  uuid : r.type = 1 → r'.uuid = none

section

variable {d out : Bytes} {stop o o' : Nat} {fr : Frame}

/-- A string of a rewritten structure is where it was. -/
theorem RewrittenAt.string_spans (h : RewrittenAt d fr out) (hfr : FrameAt d stop o fr o')
    {k : Nat} {s s' : Str} (hs : (fr.decode d).strings[k]? = some s)
    (hs' : (fr.decode out).strings[k]? = some s') :
    ∃ start slen, (fr.spans d)[k]? = some (start, slen) ∧
      s = text (slice d start (start + slen)) ∧ s' = text (slice out start (start + slen)) := by
  have halike := h.alike hfr
  have hfr' := halike.frameAt hfr hfr.fits.le_stop
  obtain ⟨start, slen, hspan, rfl⟩ := hfr.string_span hs
  obtain ⟨start', slen', hspan', rfl⟩ := hfr'.string_span hs'
  rw [halike.spans_eq hfr, hspan] at hspan'
  obtain ⟨rfl, rfl⟩ : start = start' ∧ slen = slen' := by simpa using hspan'
  exact ⟨start, slen, hspan, rfl, rfl⟩

/-- A string that no sensitive field designates is kept. -/
theorem RewrittenAt.string_eq (h : RewrittenAt d fr out) (hfr : FrameAt d stop o fr o')
    {k : Nat} {s s' : Str} (hs : (fr.decode d).strings[k]? = some s)
    (hs' : (fr.decode out).strings[k]? = some s') (hnot : ¬ (fr.decode d).Designates (k + 1)) :
    s' = s := by
  have hstart := hfr.start_eq
  have hfe := hfr.formattedEnd_eq
  obtain ⟨start, slen, hspan, rfl, rfl⟩ := h.string_spans hfr hs hs'
  obtain ⟨hle, hend⟩ := hfr.spans_bounds (List.mem_of_getElem? hspan)
  -- no character of the string is one that is rewritten
  have hagree : Agree out start d start slen := by
    intro i hi
    refine h.other _ (by omega) (by rw [Frame.next]; omega) (fun huuid => ?_) fun hchar => ?_
    · have := huuid.bounds
      omega
    · obtain ⟨field, hfield, htype, hpresent, stringIdx, a, n, hidx, hpos, hspan', hj⟩ := hchar
      refine hnot ⟨field, hfield, htype, ?_⟩
      have hk := hfr.span_index_unique hspan hspan' (j := start + i) (by omega) hj
      rw [Frame.byte_decode, if_pos hpresent, hidx, Option.map_some, Option.some.injEq]
      omega
  exact congrArg text (hagree.slice_eq (a := 0) le_rfl)

/-- A string that a sensitive field designates is written over from end to end. -/
theorem RewrittenAt.slice_of_designates (h : RewrittenAt d fr out)
    {k start slen : Nat} (hspan : (fr.spans d)[k]? = some (start, slen))
    (hdesignates : (fr.decode d).Designates (k + 1)) :
    slice out start (start + slen) = List.replicate slen 65 := by
  obtain ⟨field, hfield, htype, hbyte⟩ := hdesignates
  rw [Frame.byte_decode] at hbyte
  split at hbyte
  · rename_i hpresent
    obtain ⟨stringIdx, hidx, hk⟩ := Option.map_eq_some_iff.mp hbyte
    refine slice_eq_replicate fun j hj hj' => h.char j ?_
    refine ⟨field, hfield, htype, hpresent, stringIdx, start, slen, hidx, by omega, ?_, hj, hj'⟩
    rwa [hk, Nat.add_sub_cancel]
  · cases hbyte

theorem text_replicate (slen : Nat) : text (List.replicate slen 65) = List.replicate slen 'A' := by
  have hdecode : decodeLatin1 (List.replicate slen 65) = List.replicate slen 'A' :=
    List.map_replicate
  rw [text, hdecode]
  refine strip_of_forall fun c hc => ?_
  rw [List.eq_of_mem_replicate hc]
  decide

/-- It is a run of the letter `A` then, as long as the bytes it was read from. -/
theorem RewrittenAt.placeholder (h : RewrittenAt d fr out) (hfr : FrameAt d stop o fr o')
    {k : Nat} {s s' : Str} (hs : (fr.decode d).strings[k]? = some s)
    (hs' : (fr.decode out).strings[k]? = some s') (hdesignates : (fr.decode d).Designates (k + 1)) :
    Placeholder s s' := by
  obtain ⟨start, slen, hspan, rfl, rfl⟩ := h.string_spans hfr hs hs'
  refine ⟨slen, (length_text_le _).trans ?_, ?_⟩
  · rw [length_slice]
    omega
  · rw [h.slice_of_designates hspan hdesignates, text_replicate]

/-- A structure that the sanitizer has rewritten. -/
theorem RewrittenAt.sanitizedTo (h : RewrittenAt d fr out) (hfr : FrameAt d stop o fr o')
    (hstop : stop ≤ out.length) : (fr.decode d).SanitizedTo (fr.decode out) := by
  have hstart := hfr.start_eq
  have hfe := hfr.formattedEnd_eq
  have hend := hfr.formattedEnd_add_two_le
  have hnext := hfr.next_eq
  have hlen := hfr.length_formatted
  obtain ⟨htype, hhandle, -, hlength⟩ := (h.alike hfr).decode_shape hfr hstop
  refine ⟨htype, hhandle, fun k => ?_, hlength, fun k s s' hs hs' =>
    ⟨h.placeholder hfr hs hs', h.string_eq hfr hs hs'⟩, fun ht => uuid_eq_none h hfr ht⟩
  rw [hlen, Frame.decode, Frame.decode, getElem?_slice, getElem?_slice]
  by_cases hk : fr.type d = 1 ∧ 20 ≤ fr.length - 4 ∧ 4 ≤ k ∧ k < 20
  · rw [if_pos hk, if_pos (by omega)]
    exact h.uuid _ ⟨hk.1, by omega, by omega, by omega⟩
  · rw [if_neg hk]
    split
    · refine h.other _ (by omega) (by omega) (fun huuid => ?_) fun hchar => ?_
      · obtain ⟨ht, hlong, hlow, hhigh⟩ := huuid
        exact hk ⟨ht, by omega, by omega, by omega⟩
      · have := hchar.bounds hfr
        omega
    · rfl

end

/-! ## Records -/

/-- A field of a record and what it is after sanitizing. -/
def FieldSanitized (f f' : String × Value) : Prop :=
  f'.1 = f.1 ∧ (f'.2 = f.2 ∨ f.1 = "uuid" ∧ f'.2 = .none ∨
    ∃ s s', f.2 = .str s ∧ f'.2 = .str s' ∧ Placeholder s s')

/-- The fields of a record and what they are after sanitizing. -/
def RecordSanitized (fs fs' : Fields) : Prop := List.Forall₂ FieldSanitized fs fs'

namespace FieldSanitized

theorem same (f : String × Value) : FieldSanitized f f := ⟨rfl, Or.inl rfl⟩

theorem text {s s' : Str} (name : String) (h : s' = s ∨ Placeholder s s') :
    FieldSanitized (name, toValue s) (name, toValue s') :=
  ⟨rfl, h.elim (fun heq => Or.inl (congrArg toValue heq)) fun hA =>
    Or.inr (Or.inr ⟨s, s', rfl, rfl, hA⟩)⟩

end FieldSanitized

section

variable {r r' : RawStructure}

theorem RawStructure.SanitizedTo.formatted_eq (h : r.SanitizedTo r') {k : Nat}
    (hk : ¬ (r.type = 1 ∧ 4 ≤ k ∧ k < 20)) : r'.formatted[k]? = r.formatted[k]? := by
  rw [h.formatted, if_neg fun huuid => hk ⟨huuid.1, huuid.2.2⟩]

/-- An index byte that is no byte of a UUID designates a string that is the same or a
placeholder. -/
theorem RawStructure.SanitizedTo.text (h : r.SanitizedTo r') {o : Nat}
    (ho : ¬ (r.type = 1 ∧ 4 ≤ o ∧ o < 20)) :
    r'.string o = r.string o ∨ Placeholder (r.string o) (r'.string o) := by
  have hbyte : r'.byte o = r.byte o := congrArg (Option.map UInt8.toNat) (h.formatted_eq ho)
  have hlength := h.length_strings
  rw [RawStructure.string, RawStructure.string, hbyte]
  unfold RawStructure.nthString
  split
  · exact Or.inl rfl
  · rw [List.getD_eq_getElem?_getD, List.getD_eq_getElem?_getD]
    rcases Nat.lt_or_ge (orZero (r.byte o) - 1) r.strings.length with hlt | hge
    · have hs := List.getElem?_eq_getElem hlt
      have hs' := List.getElem?_eq_getElem (hlength ▸ hlt)
      obtain ⟨hyes, hno⟩ := h.string _ _ _ hs hs'
      rw [hs, hs']
      exact (Classical.em (r.Designates _)).symm.imp hno hyes
    · rw [List.getElem?_eq_none hge, List.getElem?_eq_none (hlength ▸ hge)]
      exact Or.inl rfl

/-- A structure that is no system structure keeps its formatted area. -/
theorem RawStructure.SanitizedTo.eq_with_strings (h : r.SanitizedTo r') (ht : r.type ≠ 1) :
    r' = { r with strings := r'.strings } := by
  have hformatted : r'.formatted = r.formatted :=
    List.ext_getElem? fun k => h.formatted_eq fun hk => ht hk.1
  obtain ⟨type, handle, formatted, strings⟩ := r'
  obtain ⟨rfl, rfl⟩ : type = r.type ∧ handle = r.handle := ⟨h.type_eq, h.handle_eq⟩
  simp only at hformatted
  rw [hformatted]

/-- A structure of a type without sensitive fields is kept. -/
theorem RawStructure.SanitizedTo.eq_of_type (h : r.SanitizedTo r')
    (ht : ∀ field ∈ sensitiveStringFields, field.1.1 ≠ r.type) : r' = r := by
  have hstrings : r'.strings = r.strings := by
    refine List.ext_getElem h.length_strings fun k hk' hk => ?_
    refine (h.string k _ _ (List.getElem?_eq_getElem hk) (List.getElem?_eq_getElem hk')).2 ?_
    rintro ⟨field, hfield, hft, -⟩
    exact ht field hfield hft
  have h1 : r.type ≠ 1 := (ht ((1, 3), "system.serial_number") (by decide)).symm
  rw [h.eq_with_strings h1, hstrings]

theorem baseboard_sanitized (h : r.SanitizedTo r') (ht : r.type = 2) :
    RecordSanitized r.toBaseboard.asFields r'.toBaseboard.asFields := by
  have htext : ∀ o, r'.string o = r.string o ∨ Placeholder (r.string o) (r'.string o) :=
    fun o => h.text (by omega)
  rw [h.eq_with_strings (by omega)] at htext ⊢
  exact .cons (.same _) <| .cons (.text _ (htext 0)) <| .cons (.text _ (htext 1)) <|
    .cons (.text _ (htext 2)) <| .cons (.text _ (htext 3)) <| .cons (.text _ (htext 4)) <|
    .cons (.same _) <| .cons (.text _ (htext 6)) <| .cons (.same _) <| .cons (.same _) .nil

theorem chassis_sanitized (h : r.SanitizedTo r') (ht : r.type = 3) :
    RecordSanitized r.toChassis.asFields r'.toChassis.asFields := by
  have htext : ∀ o, r'.string o = r.string o ∨ Placeholder (r.string o) (r'.string o) :=
    fun o => h.text (by omega)
  rw [h.eq_with_strings (by omega)] at htext ⊢
  exact .cons (.same _) <| .cons (.text _ (htext 0)) <| .cons (.same _) <| .cons (.same _) <|
    .cons (.text _ (htext 2)) <| .cons (.text _ (htext 3)) <| .cons (.text _ (htext 4)) <|
    .cons (.same _) <| .cons (.same _) <| .cons (.same _) <| .cons (.same _) <| .cons (.same _) <|
    .cons (.same _) <| .cons (.text _ (htext r.skuOffset)) .nil

theorem processor_sanitized (h : r.SanitizedTo r') (ht : r.type = 4) :
    RecordSanitized r.toProcessor.asFields r'.toProcessor.asFields := by
  have htext : ∀ o, r'.string o = r.string o ∨ Placeholder (r.string o) (r'.string o) :=
    fun o => h.text (by omega)
  rw [h.eq_with_strings (by omega)] at htext ⊢
  exact .cons (.same _) <| .cons (.text _ (htext 0)) <| .cons (.same _) <| .cons (.same _) <|
    .cons (.text _ (htext 3)) <| .cons (.same _) <| .cons (.text _ (htext 12)) <| .cons (.same _) <|
    .cons (.same _) <| .cons (.same _) <| .cons (.same _) <| .cons (.same _) <| .cons (.same _) <|
    .cons (.same _) <| .cons (.same _) <| .cons (.same _) <| .cons (.text _ (htext 28)) <|
    .cons (.text _ (htext 29)) <| .cons (.text _ (htext 30)) <| .cons (.same _) <|
    .cons (.same _) <| .cons (.same _) <| .cons (.same _) <| .cons (.same _) .nil

theorem memoryDevice_sanitized (h : r.SanitizedTo r') (ht : r.type = 17) :
    RecordSanitized r.toMemoryDevice.asFields r'.toMemoryDevice.asFields := by
  have htext : ∀ o, r'.string o = r.string o ∨ Placeholder (r.string o) (r'.string o) :=
    fun o => h.text (by omega)
  rw [h.eq_with_strings (by omega)] at htext ⊢
  exact .cons (.same _) <| .cons (.same _) <| .cons (.same _) <| .cons (.same _) <|
    .cons (.same _) <| .cons (.same _) <| .cons (.same _) <| .cons (.same _) <|
    .cons (.text _ (htext 12)) <| .cons (.text _ (htext 13)) <| .cons (.same _) <|
    .cons (.same _) <| .cons (.same _) <| .cons (.text _ (htext 19)) <|
    .cons (.text _ (htext 20)) <| .cons (.text _ (htext 21)) <| .cons (.text _ (htext 22)) <|
    .cons (.same _) <| .cons (.same _) <| .cons (.same _) <| .cons (.same _) <| .cons (.same _) <|
    .cons (.same _) <| .cons (.same _) <| .cons (.text _ (htext 39)) <| .cons (.same _) <|
    .cons (.same _) <| .cons (.same _) <| .cons (.same _) <| .cons (.same _) <| .cons (.same _) <|
    .cons (.same _) <| .cons (.same _) <| .cons (.same _) <| .cons (.same _) .nil

/-- The UUID of a system structure reads as not set. -/
theorem system_sanitized (h : r.SanitizedTo r') (ht : r.type = 1) :
    RecordSanitized r.toSystem.asFields r'.toSystem.asFields := by
  have htext : ∀ o, ¬ (4 ≤ o ∧ o < 20) →
      r'.string o = r.string o ∨ Placeholder (r.string o) (r'.string o) :=
    fun o ho => h.text fun hk => ho hk.2
  have hbyte : r'.byte 20 = r.byte 20 :=
    congrArg (Option.map UInt8.toNat) (h.formatted_eq (by omega))
  have hnone : r'.toSystem.uuid = none := h.uuid ht
  refine .cons ⟨rfl, Or.inl (congrArg toValue h.handle_eq)⟩ <|
    .cons (.text _ (htext 0 (by omega))) <| .cons (.text _ (htext 1 (by omega))) <|
    .cons (.text _ (htext 2 (by omega))) <| .cons (.text _ (htext 3 (by omega))) <|
    .cons ⟨rfl, Or.inr (Or.inl ⟨rfl, congrArg toValue hnone⟩)⟩ <|
    .cons ⟨rfl, Or.inl ?_⟩ <| .cons (.text _ (htext 21 (by omega))) <|
    .cons (.text _ (htext 22 (by omega))) .nil
  exact congrArg (fun b => toValue (orZero b)) hbyte

end

/-! ## The aggregate -/

/-- The aggregate of a table and that of the sanitized table. -/
structure DMIInfo.SanitizedTo (info info' : DMIInfo) : Prop where
  smbiosVersion : info'.smbiosVersion = info.smbiosVersion
  bios : info'.bios = info.bios
  system : Option.Rel (fun a a' => RecordSanitized a.asFields a'.asFields) info.system info'.system
  baseboards : List.Forall₂ (fun a a' => RecordSanitized a.asFields a'.asFields)
    info.baseboards info'.baseboards
  chassis : List.Forall₂ (fun a a' => RecordSanitized a.asFields a'.asFields)
    info.chassis info'.chassis
  processors : List.Forall₂ (fun a a' => RecordSanitized a.asFields a'.asFields)
    info.processors info'.processors
  caches : info'.caches = info.caches
  systemSlots : info'.systemSlots = info.systemSlots
  oemStrings : info'.oemStrings = info.oemStrings
  memoryArrays : info'.memoryArrays = info.memoryArrays
  memoryDevices : List.Forall₂ (fun a a' => RecordSanitized a.asFields a'.asFields)
    info.memoryDevices info'.memoryDevices
  ipmiDevices : info'.ipmiDevices = info.ipmiDevices
  tpmDevices : info'.tpmDevices = info.tpmDevices
  rawStructures : List.Forall₂ RawStructure.SanitizedTo info.rawStructures info'.rawStructures
  tnModel : info'.tnModel = platformModel info'.system info'.baseboards
  tnModel_eq : info'.system.map SystemInfo.productName = info.system.map SystemInfo.productName →
    info'.baseboards.head?.map BaseboardInfo.product =
      info.baseboards.head?.map BaseboardInfo.product → info'.tnModel = info.tnModel

section

variable {raws raws' : List RawStructure} {α : Type}

/-- Structures of one type, each sanitized, give records that are each sanitized. -/
theorem forall₂_ofType {S : α → α → Prop} {view : RawStructure → α} {typeId : Nat}
    (h : List.Forall₂ RawStructure.SanitizedTo raws raws')
    (hview : ∀ r r', r.SanitizedTo r' → r.type = typeId → S (view r) (view r')) :
    List.Forall₂ S ((raws.filter fun r => r.type == typeId).map view)
      ((raws'.filter fun r => r.type == typeId).map view) := by
  induction h with
  | nil => exact .nil
  | @cons r r' raws raws' hr _ ih =>
      have htype := hr.type_eq
      by_cases ht : r.type = typeId
      · rw [List.filter_cons_of_pos (by simpa using ht),
          List.filter_cons_of_pos (by simpa [htype] using ht)]
        exact .cons (hview r r' hr ht) ih
      · rw [List.filter_cons_of_neg (by simpa using ht),
          List.filter_cons_of_neg (by simpa [htype] using ht)]
        exact ih

/-- Structures of a type without sensitive fields are the same. -/
theorem ofType_eq {typeId : Nat} (h : List.Forall₂ RawStructure.SanitizedTo raws raws')
    (ht : ∀ field ∈ sensitiveStringFields, field.1.1 ≠ typeId) :
    (raws'.filter fun r => r.type == typeId) = raws.filter fun r => r.type == typeId := by
  have hsame : ∀ r r' : RawStructure, r.SanitizedTo r' → r.type = typeId → id r = id r' :=
    fun r r' hr hrt => (hr.eq_of_type (hrt ▸ ht)).symm
  have heq := forall₂_ofType (S := Eq) h hsame
  rw [List.forall₂_eq_eq_eq, List.map_id, List.map_id] at heq
  exact heq.symm

theorem rel_head? {S : α → α → Prop} {as bs : List α} (h : List.Forall₂ S as bs) :
    Option.Rel S as.head? bs.head? := by
  cases h with
  | nil => exact .none
  | cons hfirst _ => exact .some hfirst

theorem dmiInfo_sanitizedTo (h : List.Forall₂ RawStructure.SanitizedTo raws raws')
    (smbiosVersion : Nat × Nat) :
    (dmiInfo smbiosVersion raws).SanitizedTo (dmiInfo smbiosVersion raws') := by
  have hof : ∀ typeId, (∀ field ∈ sensitiveStringFields, field.1.1 ≠ typeId) →
      (raws'.filter fun r => r.type == typeId) = raws.filter fun r => r.type == typeId :=
    fun _ ht => ofType_eq h ht
  refine
    { smbiosVersion := rfl
      bios := ?_
      system := ?_
      baseboards := forall₂_ofType h fun _ _ hr ht => baseboard_sanitized hr ht
      chassis := forall₂_ofType h fun _ _ hr ht => chassis_sanitized hr ht
      processors := forall₂_ofType h fun _ _ hr ht => processor_sanitized hr ht
      caches := congrArg (List.map _) (hof 7 (by decide))
      systemSlots := congrArg (List.map _) (hof 9 (by decide))
      oemStrings := congrArg (List.flatMap _) (hof 11 (by decide))
      memoryArrays := congrArg (List.map _) (hof 16 (by decide))
      memoryDevices := forall₂_ofType h fun _ _ hr ht => memoryDevice_sanitized hr ht
      ipmiDevices := congrArg (List.map _) (hof 38 (by decide))
      tpmDevices := congrArg (List.map _) (hof 43 (by decide))
      rawStructures := h
      tnModel := rfl
      tnModel_eq := fun hsystem hboard => ?_ }
  · show (raws'.find? _).map _ = (raws.find? _).map _
    rw [find?_ofType, find?_ofType, hof 0 (by decide)]
  · show Option.Rel _ ((raws.find? _).map _) ((raws'.find? _).map _)
    rw [find?_ofType, find?_ofType]
    exact rel_head? (forall₂_ofType h fun _ _ hr ht => system_sanitized hr ht)
  · show platformModel _ _ = platformModel _ _
    rw [platformModel_eq, platformModel_eq]
    exact congrArg₂ modelOf hsystem hboard

end

/-- The sanitizer on a table that is accepted under some declared length: every
structure is rewritten, and the output is accepted under the same length, with
the same boundaries. -/
theorem sanitize_of_walk {d : Bytes} {n : Nat} {rs : List RawStructure}
    (h : walkStructures d n = .ok rs) :
    ∃ frs e s, Tiling (FrameAt d (tableEnd d n)) 0 frs e ∧ rs = frs.map (Frame.decode d) ∧
      sanitize d = .ok s ∧ s.out.length = d.length ∧ (∀ fr ∈ frs, RewrittenAt d fr s.out) ∧
      walkStructures s.out n = .ok (frs.map (Frame.decode s.out)) := by
  obtain ⟨frs, e, ha, rfl⟩ := walkStructures_ok_iff.mp h
  obtain ⟨htile, htype, -⟩ := accepts_iff_tiling.mp ha
  have htile' : Tiling (FrameAt d d.length) 0 frs e :=
    htile.imp fun fr _ o o' hat => hat.mono (hat.fits.le_stop.trans (tableEnd_le d n))
  obtain ⟨s, hs, hlength, -, hall, -⟩ := sanitizeLoop_run htile' htype []
  refine ⟨frs, e, s, htile, rfl, hs, hlength, hall, walkStructures_ok_iff.mpr ⟨frs, e, ?_, rfl⟩⟩
  rw [show tableEnd s.out n = tableEnd d n by rw [tableEnd, tableEnd, hlength]]
  refine ha.of_alike fun fr hfr => ?_
  obtain ⟨o, o', hat, -⟩ := htile.exists_at FrameAt.lt hfr
  exact (hall fr hfr).alike hat

/-- Sanitizing a table changes in what is read from it the UUID, which reads as not
set, and texts, which become placeholders; the platform model is derived from what is
read then. -/
theorem sanitize_preserves (d : Bytes) (n : Nat) (rs : List RawStructure)
    (h : walkStructures d n = .ok rs) :
    ∃ s rs', sanitize d = .ok s ∧ walkStructures s.out n = .ok rs' ∧
      List.Forall₂ RawStructure.SanitizedTo rs rs' ∧
      ∀ ep : EntryPoint, ∃ info info', aggregate ⟨ep, rs⟩ = .ok info ∧
        aggregate ⟨ep, rs'⟩ = .ok info' ∧ info.SanitizedTo info' := by
  obtain ⟨frs, e, s, htile, rfl, hs, hlength, hall, hwalk⟩ := sanitize_of_walk h
  have hstructures : List.Forall₂ RawStructure.SanitizedTo (frs.map (Frame.decode d))
      (frs.map (Frame.decode s.out)) := by
    rw [List.forall₂_map_left_iff, List.forall₂_map_right_iff, List.forall₂_same]
    intro fr hfr
    obtain ⟨o, o', hat, -⟩ := htile.exists_at FrameAt.lt hfr
    exact (hall fr hfr).sanitizedTo hat (hlength ▸ tableEnd_le d n)
  exact ⟨s, _, hs, hwalk, hstructures, fun ep =>
    ⟨_, _, aggregate_eq ⟨ep, _⟩, aggregate_eq ⟨ep, _⟩, dmiInfo_sanitizedTo hstructures _⟩⟩

/-- A baseboard whose product and serial number are one and the same string. -/
theorem sanitize_preserves_baseboard :
    ∃ s rs', sanitize [2, 9, 7, 0, 0, 1, 0, 1, 0, 83, 78, 0, 0] = .ok s ∧
      walkStructures s.out 0 = .ok rs' ∧
      List.Forall₂ RawStructure.SanitizedTo [⟨2, 7, [0, 1, 0, 1, 0], [['S', 'N']]⟩] rs' := by
  obtain ⟨s, rs', hs, hwalk, hall, -⟩ :=
    sanitize_preserves [2, 9, 7, 0, 0, 1, 0, 1, 0, 83, 78, 0, 0] 0
      [⟨2, 7, [0, 1, 0, 1, 0], [['S', 'N']]⟩] (by decide)
  exact ⟨s, rs', hs, hwalk, hall⟩

end TruenasPydmi
