/-
  Read/Declared.lean --- what an entry point declares, and what of it can be seen.

  An entry point is accepted in two forms, and of either only the version, the
  revision and the table length are taken.  The revision goes nowhere.  The length
  bounds the walk, and the walk shows it: a table that is one structure behind the
  declared end tells any two lengths apart, but for the lengths below four, which
  leave no room for a header (`walkStructures_eq_iff`).  So two entry points can be
  exchanged exactly when they declare the same (`entryPoint_exact`).
-/
import TruenasPydmi.Image.Values
import TruenasPydmi.Read.Outcome
import TruenasPydmi.Walk.Encoding
import TruenasPydmi.Walk.Splice

set_option autoImplicit false

namespace TruenasPydmi

open TruenasPydmi.Foundation TruenasPydmi.Python

/-! ## The declared length -/

/-- Two declared lengths that bound every table alike: they are equal, or neither
leaves room for a header. -/
def SameBound (n m : Nat) : Prop := n = m ∨ (0 < n ∧ n < 4) ∧ 0 < m ∧ m < 4

/-- Only the end of the table matters. -/
theorem walkStructures_of_tableEnd_eq {t : Bytes} {n m : Nat} (h : tableEnd t n = tableEnd t m) :
    walkStructures t n = walkStructures t m := by
  have hrun : ∀ {i j : Nat} (hi : i ≤ t.length) (hj : j ≤ t.length), i = j →
      (walkLoop t i hi).run ⟨0, []⟩ = (walkLoop t j hj).run ⟨0, []⟩ := by
    rintro i j hi hj rfl
    rfl
  exact hrun _ _ h

/-- A length below four is too short for any table but the empty one. -/
theorem walkStructures_of_lt_four {t : Bytes} (ht : t ≠ []) {n : Nat} (hn : 0 < n) (h4 : n < 4) :
    walkStructures t n = protocolError "truncated structure header" 0 := by
  have hlength := List.length_pos_of_ne_nil ht
  have hend : 0 < tableEnd t n ∧ tableEnd t n < 4 := by
    rw [tableEnd, if_pos hn]
    omega
  exact walkStructures_error_iff.mpr ⟨[], 0, .refl 0, hend.1, .header hend.2⟩

/-- A structure alone is read exactly when the declared length covers its header and
its formatted area. -/
theorem walkStructures_block_iff {b : Bytes} {r : RawStructure} (h : IsBlock b r) (n : Nat) :
    walkStructures b n = .ok [r] ↔ n = 0 ∨ 4 + r.formatted.length ≤ n := by
  obtain ⟨fr, hfr, rfl⟩ := h
  have hfe := hfr.formattedEnd_eq
  have hfour := hfr.fits.four_le
  have hlength : 4 + (fr.decode b).formatted.length = fr.length := by
    rw [hfr.length_formatted]
    omega
  rw [hlength]
  constructor
  · intro hwalk
    obtain ⟨frs, e, ha, hrs⟩ := walkStructures_ok_iff.mp hwalk
    obtain ⟨gr, rfl, hdecode⟩ : ∃ gr, frs = [gr] ∧ gr.decode b = fr.decode b := by
      rw [eq_comm, List.map_eq_singleton_iff] at hrs
      exact hrs
    obtain ⟨m, hgr, -⟩ := Tiling.cons_iff.mp ha.tiling
    have hge := hgr.formattedEnd_eq
    have hstop := hgr.fits.le_stop
    have hsame : gr.length = fr.length := by
      obtain ⟨L, hL, hLlen⟩ := hfr.exists_lengthByte
      rw [← hLlen, ← hgr.toNat_lengthByte hL]
    rcases Nat.eq_zero_or_pos n with hn | hn
    · exact Or.inl hn
    · refine Or.inr ?_
      rw [tableEnd, if_pos hn] at hstop
      omega
  · intro hn
    have hstop : fr.formattedEnd ≤ tableEnd b n := by
      have := hfr.fits.le_stop
      rw [tableEnd]
      split <;> omega
    refine walkStructures_ok_iff.mpr ⟨[fr], b.length, ?_, rfl⟩
    have hfr' := hfr.mono hstop
    by_cases ht : fr.type b = 127
    · exact .endOfTable hfr' ht
    · exact .step hfr' ht (.atEnd (tableEnd_le b n))

/-- A structure with so many formatted bytes and one string of so many characters. -/
def probe (formatted chars : Nat) : RawStructure where
  type := 2
  handle := 0
  formatted := List.replicate formatted 0
  strings := if chars = 0 then [] else [List.replicate chars 'A']

theorem probe_encodable {formatted : Nat} (h : formatted ≤ 251) (chars : Nat) :
    Encodable (probe formatted chars) ∧ Delimited (probe formatted chars).strings := by
  have hmem : ∀ s ∈ (probe formatted chars).strings,
      chars ≠ 0 ∧ s = List.replicate chars 'A' := by
    intro s hs
    rw [probe] at hs
    split at hs
    · simp at hs
    · rename_i hchars
      exact ⟨hchars, List.mem_singleton.mp hs⟩
  have hletter : ∀ s ∈ (probe formatted chars).strings, ∀ c ∈ s, c = 'A' := by
    intro s hs c hc
    rw [(hmem s hs).2] at hc
    exact List.eq_of_mem_replicate hc
  refine ⟨⟨show 2 < 256 by decide, show 0 < 0x10000 by decide, ?_, fun s hs hnul => ?_,
    fun s hs c hc => ?_, fun s hs => ?_⟩, ?_⟩
  · rwa [probe, List.length_replicate]
  · exact absurd (hletter s hs _ hnul) (by decide)
  · rw [hletter s hs c hc]
    decide
  · refine strip_of_forall fun c hc => ?_
    rw [hletter s hs c hc]
    decide
  · refine delimited_of_ne_nil fun s hs => ?_
    obtain ⟨hchars, rfl⟩ := hmem s hs
    simpa using hchars

theorem length_encode_probe (formatted chars : Nat) :
    (encode [probe formatted chars]).length = formatted + chars + 6 := by
  have hstrings : (encodeStrings (probe formatted chars).strings).length = chars + 2 := by
    rcases Nat.eq_zero_or_pos chars with rfl | hchars
    · rfl
    · rw [probe, if_neg (Nat.ne_of_gt hchars), encodeStrings, if_neg (by simp)]
      simp [encodeLatin1, terminated]
  rw [encode, List.map_singleton, List.flatten_singleton, encodeStructure, List.length_append,
    List.length_append, hstrings]
  simp only [encodeHeader, probe, List.length_cons, List.length_nil, List.length_replicate]
  omega

/-- A bound at the end of a structure hides the byte behind it, and no later bound
does. -/
theorem walkStructures_probe (chars : Nat) :
    walkStructures (encode [probe 0 chars] ++ [0]) (chars + 6) = .ok [probe 0 chars] ∧
    ∀ m, m = 0 ∨ chars + 6 < m → walkStructures (encode [probe 0 chars] ++ [0]) m =
      protocolError "truncated structure header" (chars + 6) := by
  obtain ⟨hencodable, hdel⟩ := probe_encodable (Nat.zero_le 251) chars
  have hlength := length_encode_probe 0 chars
  rw [Nat.zero_add] at hlength
  have hwalk : ∀ (junk : Bytes) (n : Nat),
      tableEnd (encode [probe 0 chars] ++ junk) n = (encode [probe 0 chars]).length →
      walkStructures (encode [probe 0 chars] ++ junk) n = .ok [probe 0 chars] :=
    fun junk n h => walkStructures_encode (List.forall_mem_singleton.mpr hencodable)
      (List.forall_mem_singleton.mpr hdel) (fun _ h => by cases h) junk (Or.inr h)
  refine ⟨hwalk [0] _ ?_, fun m hm => ?_⟩
  · rw [tableEnd, if_pos (by omega), List.length_append, hlength]
    exact Nat.min_eq_right (Nat.le_add_right _ _)
  · have halone := hwalk [] 0 (tableEnd_eq_length (Or.inl rfl) |>.trans (by simp))
    rw [List.append_nil] at halone
    have hbehind := (walkStructures_append _ [0] 0 _ halone (by simp [probe])).2
      "truncated structure header" 0 (by decide)
    rw [if_pos rfl, hlength, Nat.add_zero] at hbehind
    rw [← hbehind]
    refine walkStructures_of_tableEnd_eq ?_
    rw [tableEnd_eq_length (Or.inl rfl)]
    refine tableEnd_eq_length ?_
    rw [List.length_append, hlength]
    exact hm.imp_right Nat.succ_le_of_lt

/-- Any two lengths that are not the same bound are told apart by some table. -/
theorem exists_walkStructures_ne {n m : Nat} (hn : 0 < n) (hm : m = 0 ∨ n < m)
    (h4 : m = 0 ∨ 4 ≤ m) : ∃ t, walkStructures t n ≠ walkStructures t m := by
  by_cases h6 : 6 ≤ n
  · obtain ⟨hok, herror⟩ := walkStructures_probe (n - 6)
    rw [Nat.sub_add_cancel h6] at hok herror
    refine ⟨encode [probe 0 (n - 6)] ++ [0], fun h => ?_⟩
    rw [hok, herror m hm] at h
    exact protocolError_ne_ok _ h.symm
  · -- a structure whose formatted area ends between the two lengths
    obtain ⟨k, hk, hnk, hkm⟩ : ∃ k, k ≤ 251 ∧ n < 4 + k ∧ (m = 0 ∨ 4 + k ≤ m) := by
      by_cases hm6 : m = 0 ∨ 6 ≤ m
      · exact ⟨2, by omega, by omega, by omega⟩
      · exact ⟨m - 4, by omega, by omega, by omega⟩
    obtain ⟨hencodable, hdel⟩ := probe_encodable hk 0
    have hblock := hencodable.isBlock hdel
    have hlength : (probe k 0).formatted.length = k := List.length_replicate
    refine ⟨encodeStructure (probe k 0), fun h => ?_⟩
    rw [(walkStructures_block_iff hblock m).mpr (by rwa [hlength]),
      walkStructures_block_iff hblock, hlength] at h
    omega

/-- Two declared lengths read every table alike exactly when they are the same
bound. -/
theorem walkStructures_eq_iff (n m : Nat) :
    (∀ t, walkStructures t n = walkStructures t m) ↔ SameBound n m := by
  constructor
  · intro h
    by_contra hne
    have hne' : n ≠ m ∧ (n = 0 ∨ 4 ≤ n ∨ m = 0 ∨ 4 ≤ m) := by
      rw [SameBound] at hne
      omega
    by_cases horder : 0 < n ∧ (m = 0 ∨ n < m)
    · obtain ⟨t, ht⟩ := exists_walkStructures_ne horder.1 horder.2 (by omega)
      exact ht (h t)
    · obtain ⟨t, ht⟩ := exists_walkStructures_ne (n := m) (m := n) (by omega) (by omega) (by omega)
      exact ht (h t).symm
  · rintro (rfl | ⟨⟨hn, hn4⟩, hm, hm4⟩) t
    · rfl
    · by_cases ht : t = []
      · subst ht
        exact walkStructures_of_tableEnd_eq (by simp [tableEnd, hn, hm])
      · rw [walkStructures_of_lt_four ht hn hn4, walkStructures_of_lt_four ht hm hm4]

/-! ## The two forms -/

/-- The byte at a position of an entry point, as a number. -/
def declaredByte (buf : Bytes) (i : Nat) : Nat := fromLE (slice buf i (i + 1))

/-- An entry point is accepted in one of its two forms, and what is taken from
it. -/
inductive Parses (buf : Bytes) : EntryPoint → Prop where
  /-- at least the 24 bytes of the `_SM3_` form -/
  | sm3 : 24 ≤ buf.length → slice buf 0 5 = bytesLit "_SM3_" →
      Parses buf ⟨declaredByte buf 7, declaredByte buf 8, declaredByte buf 10,
        fromLE (slice buf 12 16)⟩
  /-- at least the 31 bytes of the `_SM_` form -/
  | sm : 31 ≤ buf.length → slice buf 0 4 = bytesLit "_SM_" →
      slice buf 16 21 = bytesLit "_DMI_" →
      Parses buf ⟨declaredByte buf 6, declaredByte buf 7, declaredByte buf 10,
        fromLE (slice buf 22 24)⟩

section

variable {buf : Bytes} {ep : EntryPoint}

theorem getItem_eq_declaredByte {i : Nat} (hi : i < buf.length) :
    ∃ b : UInt8, getItem buf i = .ok b ∧ b.toNat = declaredByte buf i := by
  have hget := List.getElem?_eq_getElem hi
  exact ⟨buf[i], getItem_of_getElem? hget, (fromLE_slice_one hget).symm⟩

/-- The anchors exclude each other. -/
theorem not_sm3_of_sm (h : slice buf 0 4 = bytesLit "_SM_") :
    slice buf 0 5 ≠ bytesLit "_SM3_" := by
  intro h3
  have htake : (slice buf 0 5).take 4 = slice buf 0 4 := by
    rw [slice_zero, slice_zero, List.take_take]
    rfl
  rw [h3, h] at htake
  exact absurd htake (by decide)

theorem Parses.eq_ok (h : Parses buf ep) : parseEntryPoint buf = .ok ep := by
  cases h with
  | sm3 hlength hanchor =>
      obtain ⟨major, hmajor, hmajor'⟩ := getItem_eq_declaredByte (show 7 < buf.length by omega)
      obtain ⟨minor, hminor, hminor'⟩ := getItem_eq_declaredByte (show 8 < buf.length by omega)
      obtain ⟨revision, hrevision, hrevision'⟩ :=
        getItem_eq_declaredByte (show 10 < buf.length by omega)
      rw [parseEntryPoint, if_neg (by omega), if_pos hanchor, if_neg (by omega), hmajor, hminor,
        hrevision, unpackFrom_of_le (by omega), ← hmajor', ← hminor', ← hrevision']
      rfl
  | sm hlength hanchor hdmi =>
      obtain ⟨major, hmajor, hmajor'⟩ := getItem_eq_declaredByte (show 6 < buf.length by omega)
      obtain ⟨minor, hminor, hminor'⟩ := getItem_eq_declaredByte (show 7 < buf.length by omega)
      obtain ⟨revision, hrevision, hrevision'⟩ :=
        getItem_eq_declaredByte (show 10 < buf.length by omega)
      rw [parseEntryPoint, if_neg (by omega), if_neg (not_sm3_of_sm hanchor), if_pos hanchor,
        if_neg (by omega), hmajor, hminor, hrevision, unpackFrom_of_le (by omega), ← hmajor',
        ← hminor', ← hrevision']
      simp [hdmi]

/-- Nothing else is accepted. -/
theorem parses_of_ok (h : parseEntryPoint buf = .ok ep) : Parses buf ep := by
  have hsome : ∃ ep', Parses buf ep' := by
    unfold parseEntryPoint at h
    split at h
    · exact absurd h (protocolError_ne_ok _)
    split at h
    · rename_i hanchor
      split at h
      · exact absurd h (protocolError_ne_ok _)
      · exact ⟨_, .sm3 (by omega) hanchor⟩
    split at h
    · rename_i hanchor
      split at h
      · exact absurd h (protocolError_ne_ok _)
      · obtain ⟨major, hmajor, -⟩ := getItem_eq_declaredByte (show 6 < buf.length by omega)
        obtain ⟨minor, hminor, -⟩ := getItem_eq_declaredByte (show 7 < buf.length by omega)
        obtain ⟨revision, hrevision, -⟩ :=
          getItem_eq_declaredByte (show 10 < buf.length by omega)
        simp only [hmajor, hminor, hrevision, ok_bind, liftM_ok] at h
        split at h
        · exact absurd h (protocolError_ne_ok _)
        · rename_i hdmi
          exact ⟨_, .sm (by omega) hanchor (not_not.mp hdmi)⟩
    · exact absurd h (protocolError_ne_ok _)
  obtain ⟨ep', h'⟩ := hsome
  obtain rfl : ep' = ep := Except.ok.inj (h'.eq_ok.symm.trans h)
  exact h'

end

/-! ## Writing an entry point -/

/-- What the fields of an entry point can hold, its length in so many bytes. -/
structure EntryPoint.Fits (width : Nat) (ep : EntryPoint) : Prop where
  major_lt : ep.major < 256
  minor_lt : ep.minor < 256
  revision_lt : ep.revision < 256
  tableLength_lt : ep.tableLength < 256 ^ width

/-- The 24 bytes of the `_SM3_` form. -/
def writeSm3 (ep : EntryPoint) : Bytes :=
  image [.bytes (bytesLit "_SM3_"), .num 1 0, .num 1 24, .num 1 ep.major, .num 1 ep.minor,
    .num 1 0, .num 1 ep.revision, .num 1 0, .num 4 ep.tableLength, .num 8 0]

/-- The 31 bytes of the `_SM_` form. -/
def writeSm (ep : EntryPoint) : Bytes :=
  image [.bytes (bytesLit "_SM_"), .num 1 0, .num 1 31, .num 1 ep.major, .num 1 ep.minor,
    .num 2 0, .num 1 ep.revision, .num 5 0, .bytes (bytesLit "_DMI_"), .num 1 0,
    .num 2 ep.tableLength, .num 7 0]

theorem length_writeSm3 (ep : EntryPoint) : (writeSm3 ep).length = 24 := length_image _

theorem length_writeSm (ep : EntryPoint) : (writeSm ep).length = 31 := length_image _

theorem slice_writeSm3 (ep : EntryPoint) : slice (writeSm3 ep) 0 5 = bytesLit "_SM3_" :=
  (slice_image (c := .bytes (bytesLit "_SM3_")) rfl).1

theorem slice_writeSm (ep : EntryPoint) : slice (writeSm ep) 0 4 = bytesLit "_SM_" :=
  (slice_image (c := .bytes (bytesLit "_SM_")) rfl).1

theorem parses_writeSm3 {ep : EntryPoint} (h : ep.Fits 4) : Parses (writeSm3 ep) ep := by
  have hparses := Parses.sm3 (length_writeSm3 ep).ge (slice_writeSm3 ep)
  rwa [declaredByte, declaredByte, declaredByte, writeSm3, fromLE_cell 7 1 rfl h.major_lt,
    fromLE_cell 8 1 rfl h.minor_lt, fromLE_cell 10 1 rfl h.revision_lt,
    fromLE_cell 12 4 rfl h.tableLength_lt] at hparses

theorem parses_writeSm {ep : EntryPoint} (h : ep.Fits 2) : Parses (writeSm ep) ep := by
  have hdmi : slice (writeSm ep) 16 21 = bytesLit "_DMI_" :=
    (slice_image (c := .bytes (bytesLit "_DMI_")) rfl).1
  have hparses := Parses.sm (length_writeSm ep).ge (slice_writeSm ep) hdmi
  rwa [declaredByte, declaredByte, declaredByte, writeSm, fromLE_cell 6 1 rfl h.major_lt,
    fromLE_cell 7 1 rfl h.minor_lt, fromLE_cell 10 1 rfl h.revision_lt,
    fromLE_cell 22 2 rfl h.tableLength_lt] at hparses

/-- Bytes stand for a number that fits them. -/
theorem fromLE_slice_lt (buf : Bytes) (o width : Nat) :
    fromLE (slice buf o (o + width)) < 256 ^ width := by
  have hdigits : ∀ d ∈ (slice buf o (o + width)).map UInt8.toNat, d < 256 := by
    intro d hd
    obtain ⟨b, -, rfl⟩ := List.mem_map.mp hd
    exact b.toNat_lt
  refine (Nat.ofDigits_lt_base_pow_length (by decide) hdigits).trans_le ?_
  refine Nat.pow_le_pow_right (by decide) ?_
  rw [List.length_map, length_slice]
  omega

/-- What an entry point declares fits the fields it is read from. -/
theorem Parses.fits {buf : Bytes} {ep : EntryPoint} (h : Parses buf ep) : ep.Fits 4 := by
  cases h with
  | sm3 =>
      exact ⟨fromLE_slice_lt _ 7 1, fromLE_slice_lt _ 8 1, fromLE_slice_lt _ 10 1,
        fromLE_slice_lt _ 12 4⟩
  | sm =>
      refine ⟨fromLE_slice_lt _ 6 1, fromLE_slice_lt _ 7 1, fromLE_slice_lt _ 10 1, ?_⟩
      exact (fromLE_slice_lt buf 22 2).trans (by decide)

/-- The `_SM_` form has two bytes for the length. -/
theorem Parses.tableLength_lt {buf : Bytes} {ep : EntryPoint} (h : Parses buf ep)
    (hanchor : slice buf 0 4 = bytesLit "_SM_") : ep.tableLength < 0x10000 := by
  cases h with
  | sm3 _ hanchor3 => exact absurd hanchor3 (not_sm3_of_sm hanchor)
  | sm => exact fromLE_slice_lt buf 22 2

/-! ## What can be seen of an entry point -/

/-- Two entry points that read every table alike: the same version and the same bound,
or the same error. -/
def SameReading : Except Raised EntryPoint → Except Raised EntryPoint → Prop
  | .ok ep, .ok ep' =>
      ep.major = ep'.major ∧ ep.minor = ep'.minor ∧ SameBound ep.tableLength ep'.tableLength
  | .error e, .error e' => e = e'
  | _, _ => False

section

variable {b : Bytes} {ep : EntryPoint}

theorem readTables_of_error {e : Raised} (h : parseEntryPoint b = .error e) (t : Bytes) :
    readTables b t = .error e := by
  rw [readTables, parseTables, h]
  rfl

theorem readTables_of_ok (h : parseEntryPoint b = .ok ep) (t : Bytes) :
    readTables b t = (walkStructures t ep.tableLength).map (dmiInfo (ep.major, ep.minor)) := by
  rcases walkStructures_outcome t ep.tableLength with ⟨raws, hraws⟩ | ⟨message, o, hraws⟩
  · rw [readTables_of_parse h hraws, hraws]
    rfl
  · have herror : readTables b t = protocolError message o := by
      simp [readTables, parseTables, h, hraws]
    rw [herror, hraws]
    rfl

/-- The structures can be told from the aggregate, and so can the version. -/
theorem dmiInfo_inj {v v' : Nat × Nat} {raws raws' : List RawStructure} :
    dmiInfo v raws = dmiInfo v' raws' ↔ v = v' ∧ raws = raws' := by
  constructor
  · intro h
    exact ⟨congrArg DMIInfo.smbiosVersion h, congrArg DMIInfo.rawStructures h⟩
  · rintro ⟨rfl, rfl⟩
    rfl

theorem map_dmiInfo_inj {v : Nat × Nat} {x x' : Except Raised (List RawStructure)} :
    x.map (dmiInfo v) = x'.map (dmiInfo v) ↔ x = x' := by
  cases x <;> cases x' <;> simp [Except.map, dmiInfo_inj]

end

theorem readTables_forall_eq_iff (b b' : Bytes) : (∀ t, readTables b t = readTables b' t) ↔
    SameReading (parseEntryPoint b) (parseEntryPoint b') := by
  have hempty : ∀ n, walkStructures [] n = .ok [] := fun n =>
    walkStructures_ok_iff.mpr ⟨[], 0, .atEnd (tableEnd_le [] n), rfl⟩
  cases h : parseEntryPoint b with
  | error e =>
      cases h' : parseEntryPoint b' with
      | error e' =>
          simp only [readTables_of_error h, readTables_of_error h', Except.error.injEq,
            SameReading, forall_const]
      | ok ep' =>
          simp only [SameReading, iff_false]
          intro hread
          have := hread []
          rw [readTables_of_error h, readTables_of_ok h', hempty] at this
          cases this
  | ok ep =>
      cases h' : parseEntryPoint b' with
      | error e' =>
          simp only [SameReading, iff_false]
          intro hread
          have := hread []
          rw [readTables_of_ok h, readTables_of_error h', hempty] at this
          cases this
      | ok ep' =>
          simp only [readTables_of_ok h, readTables_of_ok h', SameReading]
          rw [← walkStructures_eq_iff, ← and_assoc, ← Prod.mk_inj]
          constructor
          · intro hread
            have hversion : (ep.major, ep.minor) = (ep'.major, ep'.minor) := by
              have hnil := hread []
              rw [hempty, hempty] at hnil
              exact (dmiInfo_inj.mp (Except.ok.inj hnil)).1
            refine ⟨hversion, fun t => ?_⟩
            have ht := hread t
            rwa [hversion, map_dmiInfo_inj] at ht
          · rintro ⟨hversion, hwalk⟩ t
            rw [hversion, hwalk t]

/-- Two entry points read every table alike exactly when they declare the same version
and the same bound, or fail with the same error.  Every version and every length of
four bytes can be declared, and each accepted entry point stands for one in the
`_SM3_` form; it stands for one in the `_SM_` form when its length fits two bytes. -/
theorem entryPoint_exact :
    (∀ b b' : Bytes, (∀ t, readTables b t = readTables b' t) ↔
      SameReading (parseEntryPoint b) (parseEntryPoint b')) ∧
    (∀ ep : EntryPoint, (∃ b, parseEntryPoint b = .ok ep) ↔ ep.Fits 4) ∧
    ∀ (b : Bytes) (ep : EntryPoint), parseEntryPoint b = .ok ep →
      (∃ b', slice b' 0 5 = bytesLit "_SM3_" ∧ b'.length = 24 ∧
        ∀ t, readTables b t = readTables b' t) ∧
      ((∃ b', slice b' 0 4 = bytesLit "_SM_" ∧ b'.length = 31 ∧
        ∀ t, readTables b t = readTables b' t) ↔ ep.tableLength < 0x10000) := by
  have hsame : ∀ {b b' : Bytes} {ep : EntryPoint}, parseEntryPoint b = .ok ep →
      parseEntryPoint b' = .ok ep → ∀ t, readTables b t = readTables b' t :=
    fun h h' t => (readTables_of_ok h t).trans (readTables_of_ok h' t).symm
  refine ⟨readTables_forall_eq_iff, fun ep => ⟨?_, ?_⟩, fun b ep h => ⟨?_, ?_, ?_⟩⟩
  · rintro ⟨b, h⟩
    exact (parses_of_ok h).fits
  · exact fun h => ⟨_, (parses_writeSm3 h).eq_ok⟩
  · have hparses := parses_writeSm3 (parses_of_ok h).fits
    exact ⟨_, slice_writeSm3 ep, length_writeSm3 ep, hsame h hparses.eq_ok⟩
  · rintro ⟨b', hanchor, -, hread⟩
    have hreading := (readTables_forall_eq_iff b b').mp hread
    rw [h] at hreading
    cases h' : parseEntryPoint b' with
    | error e => rw [h'] at hreading; exact hreading.elim
    | ok ep' =>
        rw [h'] at hreading
        have hlt := (parses_of_ok h').tableLength_lt hanchor
        rcases hreading.2.2 with heq | ⟨hshort, -⟩
        · rwa [heq]
        · exact hshort.2.trans (by decide)
  · intro hlength
    have hfits := (parses_of_ok h).fits
    have hparses := parses_writeSm ⟨hfits.major_lt, hfits.minor_lt, hfits.revision_lt, hlength⟩
    exact ⟨_, slice_writeSm ep, length_writeSm ep, hsame h hparses.eq_ok⟩

end TruenasPydmi
