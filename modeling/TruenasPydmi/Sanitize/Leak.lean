/-
  Sanitize/Leak.lean --- no serial number, asset tag or UUID survives sanitizing.

  The sanitizer's table of field offsets and the offsets in the typed parsers meet
  here: a string that a parser reads through a sensitive index byte of a rewritten
  structure consists of the letter `A` (`onlyA_string`), and its UUID reads as not
  set (`uuid_eq_none`).  Records are redacted one structure at a time; the
  aggregate only collects them.
-/
import TruenasPydmi.Read.Outcome
import TruenasPydmi.Sanitize.Run

set_option autoImplicit false

namespace TruenasPydmi

open TruenasPydmi.Foundation TruenasPydmi.Python

/-! ## Redacted records -/

/-- The text is empty or consists of the letter `A`. -/
def OnlyA (s : Str) : Prop := ∀ c ∈ s, c = 'A'

def SystemInfo.Redacted (s : SystemInfo) : Prop := OnlyA s.serialNumber ∧ s.uuid = none

def BaseboardInfo.Redacted (b : BaseboardInfo) : Prop := OnlyA b.serialNumber ∧ OnlyA b.assetTag

def ChassisInfo.Redacted (c : ChassisInfo) : Prop := OnlyA c.serialNumber ∧ OnlyA c.assetTag

def ProcessorInfo.Redacted (p : ProcessorInfo) : Prop := OnlyA p.serialNumber ∧ OnlyA p.assetTag

def MemoryDevice.Redacted (m : MemoryDevice) : Prop := OnlyA m.serialNumber ∧ OnlyA m.assetTag

/-- The record that the parser of its type makes of a structure is redacted. -/
structure RawStructure.Redacted (r : RawStructure) : Prop where
  system : r.type = 1 → ∀ a, parseSystem r = .ok a → a.Redacted
  baseboard : r.type = 2 → ∀ a, parseBaseboard r = .ok a → a.Redacted
  chassis : r.type = 3 → ∀ a, parseChassis r = .ok a → a.Redacted
  processor : r.type = 4 → ∀ a, parseProcessor r = .ok a → a.Redacted
  memoryDevice : r.type = 17 → ∀ a, parseMemoryDevice r = .ok a → a.Redacted

/-- All records of an aggregate are redacted. -/
structure DMIInfo.Redacted (info : DMIInfo) : Prop where
  system : ∀ a, info.system = some a → a.Redacted
  baseboards : ∀ a ∈ info.baseboards, a.Redacted
  chassis : ∀ a ∈ info.chassis, a.Redacted
  processors : ∀ a ∈ info.processors, a.Redacted
  memoryDevices : ∀ a ∈ info.memoryDevices, a.Redacted

/-- Aggregation adds nothing to what the structures say. -/
theorem dmiInfo_redacted {raws : List RawStructure} (h : ∀ r ∈ raws, r.Redacted)
    (smbiosVersion : Nat × Nat) : (dmiInfo smbiosVersion raws).Redacted := by
  have hall : ∀ {α : Type} {P : α → Prop} {view : RawStructure → α} {typeId : Nat},
      (∀ r ∈ raws, r.type = typeId → P (view r)) →
        ∀ a ∈ (raws.filter fun r => r.type == typeId).map view, P a := by
    intro α P view typeId hview a ha
    obtain ⟨r, hr, rfl⟩ := List.mem_map.mp ha
    obtain ⟨hmem, htype⟩ := List.mem_filter.mp hr
    exact hview r hmem (eq_of_beq htype)
  refine ⟨fun a ha => ?_, hall fun r hr ht => (h r hr).baseboard ht _ (parseBaseboard_eq r),
    hall fun r hr ht => (h r hr).chassis ht _ (parseChassis_eq r),
    hall fun r hr ht => (h r hr).processor ht _ (parseProcessor_eq r),
    hall fun r hr ht => (h r hr).memoryDevice ht _ (parseMemoryDevice_eq r)⟩
  obtain ⟨r, hfind, rfl⟩ := Option.map_eq_some_iff.mp ha
  have htype := List.find?_some hfind
  exact (h r (List.mem_of_find?_eq_some hfind)).system (eq_of_beq htype) _ (parseSystem_eq r)

/-! ## A rewritten structure -/

/-- Decoding and stripping leave nothing but the letters that were written. -/
theorem onlyA_text {b : Bytes} (h : ∀ x ∈ b, x = 65) : OnlyA (text b) := by
  intro c hc
  obtain ⟨x, hx, rfl⟩ := List.mem_map.mp ((strip_sublist _).subset hc)
  rw [h x hx]
  rfl

/-- The byte a typed parser reads, in the table. -/
theorem Frame.byte_decode (buf : Bytes) (fr : Frame) (o : Nat) :
    (fr.decode buf).byte o =
      if 4 + o < fr.length then (buf[fr.start + 4 + o]?).map UInt8.toNat else none := by
  rw [RawStructure.byte, Frame.decode, getElem?_slice, Frame.formattedEnd]
  by_cases h : 4 + o < fr.length
  · rw [if_pos h, if_pos (by omega)]
  · rw [if_neg h, if_neg (by omega)]
    rfl

section

variable {d out : Bytes} {stop o o' : Nat} {fr : Frame}

/-- A string that a sensitive index byte designates is rewritten in full. -/
theorem onlyA_string (h : RewrittenAt d fr out) (hfr : FrameAt d stop o fr o')
    {field : (Nat × Nat) × String} (hfield : field ∈ sensitiveStringFields)
    (htype : field.1.1 = fr.type d) : OnlyA ((fr.decode out).string field.1.2) := by
  have halike := h.alike hfr
  have hfr' := halike.frameAt hfr hfr.fits.le_stop
  rw [RawStructure.string, RawStructure.nthString, Frame.byte_decode]
  -- an index byte that is cut off, or one past the strings, designates no string
  by_cases hpresent : 4 + field.1.2 < fr.length
  · rw [if_pos hpresent]
    cases hbyte : out[fr.start + 4 + field.1.2]? with
    | none => simp [OnlyA, orZero]
    | some stringIdx =>
        rw [Option.map_some, orZero_some]
        split
        · simp [OnlyA]
        · rename_i hidx
          rw [List.getD_eq_getElem?_getD]
          cases hs : (fr.decode out).strings[stringIdx.toNat - 1]? with
          | none => simp [OnlyA]
          | some s =>
              obtain ⟨start, slen, hspan, rfl⟩ := hfr'.string_span hs
              rw [halike.spans_eq hfr] at hspan
              rw [halike.index field hfield htype hpresent] at hbyte
              refine onlyA_text fun x hx => ?_
              obtain ⟨j, hj, hj', hget⟩ := mem_slice.mp hx
              have hchar : SensitiveChar d fr j :=
                ⟨field, hfield, htype, hpresent, stringIdx, start, slen, hbyte, by omega, hspan,
                  hj, hj'⟩
              rw [h.char j hchar, Option.some.injEq] at hget
              exact hget.symm
  · simp [OnlyA, if_neg hpresent, orZero]

/-- The UUID of a Type 1 structure is zero or cut off. -/
theorem uuid_eq_none (h : RewrittenAt d fr out) (hfr : FrameAt d stop o fr o')
    (htype : fr.type d = 1) : (fr.decode out).uuid = none := by
  have hlength := ((h.alike hfr).frameAt hfr hfr.fits.le_stop).length_formatted
  unfold RawStructure.uuid
  split
  · rename_i hlong
    rw [if_pos]
    refine slice_eq_replicate (i := 4) (n := 16) fun k hk hk' => ?_
    rw [Frame.decode, getElem?_slice, Frame.formattedEnd, if_pos (by omega)]
    exact h.uuid _ ⟨htype, by omega, by omega, by omega⟩
  · rfl

/-- A rewritten structure is redacted. -/
theorem RewrittenAt.redacted (h : RewrittenAt d fr out) (hfr : FrameAt d stop o fr o') :
    (fr.decode out).Redacted := by
  have htype_eq : (fr.decode out).type = fr.type d := (h.alike hfr).type_eq
  have hstring : ∀ field, field ∈ sensitiveStringFields →
      (fr.decode out).type = field.1.1 → OnlyA ((fr.decode out).string field.1.2) :=
    fun _ hfield ht => onlyA_string h hfr hfield (ht.symm.trans htype_eq)
  refine ⟨fun ht a ha => ?_, fun ht a ha => ?_, fun ht a ha => ?_, fun ht a ha => ?_,
    fun ht a ha => ?_⟩
  · rw [parseSystem_eq, Except.ok.injEq] at ha
    subst ha
    exact ⟨hstring ((1, 3), "system.serial_number") (by decide) ht,
      uuid_eq_none h hfr (htype_eq.symm.trans ht)⟩
  · rw [parseBaseboard_eq, Except.ok.injEq] at ha
    subst ha
    exact ⟨hstring ((2, 3), "baseboard.serial_number") (by decide) ht,
      hstring ((2, 4), "baseboard.asset_tag") (by decide) ht⟩
  · rw [parseChassis_eq, Except.ok.injEq] at ha
    subst ha
    exact ⟨hstring ((3, 3), "chassis.serial_number") (by decide) ht,
      hstring ((3, 4), "chassis.asset_tag") (by decide) ht⟩
  · rw [parseProcessor_eq, Except.ok.injEq] at ha
    subst ha
    exact ⟨hstring ((4, 28), "processor.serial_number") (by decide) ht,
      hstring ((4, 29), "processor.asset_tag") (by decide) ht⟩
  · rw [parseMemoryDevice_eq, Except.ok.injEq] at ha
    subst ha
    exact ⟨hstring ((17, 20), "memory_device.serial_number") (by decide) ht,
      hstring ((17, 21), "memory_device.asset_tag") (by decide) ht⟩

end

/-! ## The table -/

/-- No serial number, asset tag or UUID that the typed parsers can expose survives
sanitizing, under whatever declared length the table is walked. -/
theorem sanitize_redacts (d : Bytes) (n : Nat) (rs : List RawStructure)
    (h : walkStructures d n = .ok rs) :
    ∃ s rs', sanitize d = .ok s ∧ walkStructures s.out n = .ok rs' ∧
      (∀ ep : EntryPoint, ∃ info, aggregate ⟨ep, rs'⟩ = .ok info ∧ info.Redacted) ∧
      ∀ r ∈ rs', r.Redacted := by
  obtain ⟨frs, e, ha, -⟩ := walkStructures_ok_iff.mp h
  obtain ⟨htile, htype, -⟩ := accepts_iff_tiling.mp ha
  -- the sanitizer has no declared length: it walks to the end of the data
  have htile' : Tiling (FrameAt d d.length) 0 frs e :=
    htile.imp fun fr _ o o' hat => hat.mono (hat.fits.le_stop.trans (tableEnd_le d n))
  obtain ⟨s, hs, hlength, -, hall, -⟩ := sanitizeLoop_run htile' htype []
  have hframe : ∀ fr ∈ frs, ∃ o o', FrameAt d (tableEnd d n) o fr o' := by
    intro fr hfr
    obtain ⟨o, o', hat, -⟩ := htile.exists_at FrameAt.lt hfr
    exact ⟨o, o', hat⟩
  have ha' : Accepts s.out (tableEnd s.out n) 0 frs e := by
    rw [show tableEnd s.out n = tableEnd d n by rw [tableEnd, tableEnd, hlength]]
    refine ha.of_alike fun fr hfr => ?_
    obtain ⟨o, o', hat⟩ := hframe fr hfr
    exact (hall fr hfr).alike hat
  have hredacted : ∀ r ∈ frs.map (Frame.decode s.out), r.Redacted := by
    intro r hr
    obtain ⟨fr, hfr, rfl⟩ := List.mem_map.mp hr
    obtain ⟨o, o', hat⟩ := hframe fr hfr
    exact (hall fr hfr).redacted hat
  exact ⟨s, _, hs, walkStructures_ok_iff.mpr ⟨frs, e, ha', rfl⟩,
    fun ep => ⟨_, aggregate_eq ⟨ep, _⟩, dmiInfo_redacted hredacted _⟩, hredacted⟩

/-- A baseboard whose serial number and asset tag are one and the same string. -/
theorem sanitize_redacts_baseboard :
    ∃ s rs, sanitize [2, 9, 7, 0, 0, 0, 0, 1, 1, 83, 78, 0, 0] = .ok s ∧
      walkStructures s.out 13 = .ok rs ∧ ∀ r ∈ rs, r.Redacted := by
  obtain ⟨s, rs, hs, hwalk, -, hredacted⟩ :=
    sanitize_redacts [2, 9, 7, 0, 0, 0, 0, 1, 1, 83, 78, 0, 0] 13
      [⟨2, 7, [0, 0, 0, 1, 1], [['S', 'N']]⟩] (by decide)
  exact ⟨s, rs, hs, hwalk, hredacted⟩

end TruenasPydmi
