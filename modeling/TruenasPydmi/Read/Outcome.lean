/-
  Read/Outcome.lean --- what a read of the tables can end in.

  Aggregation never fails and is a function of the structures (`dmiInfo`), so the
  contents of the two files lead to a `DMIInfo` or to a `DMIProtocolError` of the
  entry point or of the walker, and to nothing else.  What the operating system
  answers adds the other two classes of `DMIError`, and one way past the
  hierarchy: an `open` or `read` that fails with anything but a `PermissionError`
  (`EscapingFailure`).
-/
import TruenasPydmi.Decode.Total
import TruenasPydmi.Reader
import TruenasPydmi.Walk.Stream

set_option autoImplicit false

namespace TruenasPydmi

open TruenasPydmi.Foundation TruenasPydmi.Python

/-! ## Aggregation -/

section

variable {α : Type} {fn : RawStructure → Except BuiltinError α} {view : RawStructure → α}

theorem first_eq (hfn : ∀ r, fn r = .ok (view r)) (raws : List RawStructure) (typeId : Nat) :
    first raws typeId fn = .ok ((raws.find? fun r => r.type == typeId).map view) := by
  induction raws with
  | nil => rfl
  | cons r raws ih =>
      rw [first]
      by_cases ht : r.type = typeId
      · simp [ht, hfn]
      · simp [ht, ih]

theorem all_eq (hfn : ∀ r, fn r = .ok (view r)) (raws : List RawStructure) (typeId : Nat) :
    all raws typeId fn = .ok ((raws.filter fun r => r.type == typeId).map view) := by
  induction raws with
  | nil => rfl
  | cons r raws ih =>
      rw [all]
      by_cases ht : r.type = typeId
      · simp [ht, hfn, ih]
      · simp [ht, ih]

end

theorem extendOem_eq (oem : List Str) (raws : List RawStructure) :
    extendOem oem raws =
      .ok (oem ++ (raws.filter fun r => r.type == 11).flatMap RawStructure.strings) := by
  induction raws generalizing oem with
  | nil => simp [extendOem]
  | cons r raws ih =>
      rw [extendOem]
      by_cases ht : r.type = 11
      · simp [ht, parseOemStrings, ih]
      · simp [ht, ih]

/-- The platform model of a system and the first baseboard. -/
def platformModel (system : Option SystemInfo) (baseboards : List BaseboardInfo) : Str :=
  match system.filter fun s => startsWithAny s.productName platformPrefixes with
  | some system => system.productName
  | none =>
      if baseboards.head?.any fun b => b.product == "iXsystems TrueNAS X10".toList then
        "TRUENAS-X".toList
      else truenasUnknown

theorem isX10_eq (baseboards : List BaseboardInfo) :
    isX10 baseboards =
      .ok (baseboards.head?.any fun b => b.product == "iXsystems TrueNAS X10".toList) := by
  cases baseboards with
  | nil => rfl
  | cons b baseboards => simp [isX10, getItem]

theorem tnModel_eq (system : Option SystemInfo) (baseboards : List BaseboardInfo) :
    tnModel system baseboards = .ok (platformModel system baseboards) := by
  unfold tnModel platformModel
  cases system.filter fun s => startsWithAny s.productName platformPrefixes with
  | some system => rfl
  | none =>
      simp only [isX10_eq, ok_bind]
      split <;> rfl

/-- The aggregate of the structures of a table. -/
def dmiInfo (smbiosVersion : Nat × Nat) (raws : List RawStructure) : DMIInfo :=
  let ofType (typeId : Nat) := raws.filter fun r => r.type == typeId
  let firstOfType (typeId : Nat) := raws.find? fun r => r.type == typeId
  let system := (firstOfType 1).map RawStructure.toSystem
  let baseboards := (ofType 2).map RawStructure.toBaseboard
  { smbiosVersion := smbiosVersion
    bios := (firstOfType 0).map RawStructure.toBios
    system := system
    baseboards := baseboards
    chassis := (ofType 3).map RawStructure.toChassis
    processors := (ofType 4).map RawStructure.toProcessor
    caches := (ofType 7).map RawStructure.toCache
    systemSlots := (ofType 9).map RawStructure.toSystemSlot
    oemStrings := (ofType 11).flatMap RawStructure.strings
    memoryArrays := (ofType 16).map RawStructure.toMemoryArray
    memoryDevices := (ofType 17).map RawStructure.toMemoryDevice
    ipmiDevices := (ofType 38).map RawStructure.toIpmiDevice
    tpmDevices := (ofType 43).map RawStructure.toTpmDevice
    rawStructures := raws
    tnModel := platformModel system baseboards }

/-- The first record of a type heads the list of all of them. -/
theorem find?_ofType {α : Type} (raws : List RawStructure) (typeId : Nat)
    (view : RawStructure → α) :
    (raws.find? fun r => r.type == typeId).map view =
      ((raws.filter fun r => r.type == typeId).map view).head? := by
  rw [List.head?_map, List.head?_filter]

theorem aggregate_eq (parsed : ParsedSMBIOS) :
    aggregate parsed =
      .ok (dmiInfo (parsed.entryPoint.major, parsed.entryPoint.minor) parsed.structures) := by
  simp only [aggregate, first_eq parseBios_eq, first_eq parseSystem_eq, all_eq parseBaseboard_eq,
    all_eq parseChassis_eq, all_eq parseProcessor_eq, all_eq parseCache_eq,
    all_eq parseSystemSlot_eq, all_eq parseMemoryArray_eq, all_eq parseMemoryDevice_eq,
    all_eq parseIpmiDevice_eq, all_eq parseTpmDevice_eq, extendOem_eq, tnModel_eq, ok_bind,
    List.nil_append]
  rfl

/-! ## The contents of the two files -/

/-- An entry point parses or is malformed. -/
theorem parseEntryPoint_outcome (buf : Bytes) :
    (∃ ep, parseEntryPoint buf = .ok ep) ∨
      ∃ message o, parseEntryPoint buf = protocolError message o := by
  have hget : ∀ i, i < buf.length → ∃ b, getItem buf i = .ok b :=
    fun i hi => ⟨buf[i], getItem_of_getElem? (List.getElem?_eq_getElem hi)⟩
  unfold parseEntryPoint
  split
  · exact Or.inr ⟨_, _, rfl⟩
  split
  · split
    · exact Or.inr ⟨_, _, rfl⟩
    · rename_i hlength
      obtain ⟨major, hmajor⟩ := hget 7 (by omega)
      obtain ⟨minor, hminor⟩ := hget 8 (by omega)
      obtain ⟨revision, hrevision⟩ := hget 10 (by omega)
      rw [hmajor, hminor, hrevision, unpackFrom_of_le (by omega)]
      exact Or.inl ⟨_, rfl⟩
  · split
    · split
      · exact Or.inr ⟨_, _, rfl⟩
      · rename_i hlength
        obtain ⟨major, hmajor⟩ := hget 6 (by omega)
        obtain ⟨minor, hminor⟩ := hget 7 (by omega)
        obtain ⟨revision, hrevision⟩ := hget 10 (by omega)
        rw [hmajor, hminor, hrevision, unpackFrom_of_le (by omega)]
        simp only [ok_bind, liftM_ok]
        split
        · exact Or.inr ⟨_, _, rfl⟩
        · exact Or.inl ⟨_, rfl⟩
    · exact Or.inr ⟨_, _, rfl⟩

theorem readTables_of_parse {epBytes tableBytes : Bytes} {ep : EntryPoint}
    {raws : List RawStructure} (hep : parseEntryPoint epBytes = .ok ep)
    (hraws : walkStructures tableBytes ep.tableLength = .ok raws) :
    readTables epBytes tableBytes = .ok (dmiInfo (ep.major, ep.minor) raws) := by
  simp [readTables, parseTables, hep, hraws, aggregate_eq]

theorem readTables_outcome (epBytes tableBytes : Bytes) :
    (∃ d, readTables epBytes tableBytes = .ok d) ∨
    ∃ message o, readTables epBytes tableBytes = protocolError message o ∧
      (parseEntryPoint epBytes = protocolError message o ∨
        ∃ ep, parseEntryPoint epBytes = .ok ep ∧
          walkStructures tableBytes ep.tableLength = protocolError message o) := by
  rcases parseEntryPoint_outcome epBytes with ⟨ep, hep⟩ | ⟨message, o, hep⟩
  · rcases walkStructures_outcome tableBytes ep.tableLength with ⟨raws, hraws⟩ | ⟨message, o, hraws⟩
    · exact Or.inl ⟨_, readTables_of_parse hep hraws⟩
    · refine Or.inr ⟨message, o, ?_, Or.inr ⟨ep, hep, hraws⟩⟩
      simp [readTables, parseTables, hep, hraws]
  · refine Or.inr ⟨message, o, ?_, Or.inl hep⟩
    simp [readTables, parseTables, hep]

/-- Malformed firmware data can only surface as `DMIProtocolError`, from the entry
point or from the walker: whatever the two files contain, and whatever raw
structure a typed parser is given, nothing else fails. -/
theorem malformedData_outcome :
    (∀ epBytes tableBytes : Bytes,
      (∃ d, readTables epBytes tableBytes = .ok d) ∨
      ∃ message o, readTables epBytes tableBytes = protocolError message o ∧
        (parseEntryPoint epBytes = protocolError message o ∨
          ∃ ep, parseEntryPoint epBytes = .ok ep ∧
            walkStructures tableBytes ep.tableLength = protocolError message o)) ∧
    (∀ parsed : ParsedSMBIOS, ∃ d, aggregate parsed = .ok d) ∧
    ∀ raw : RawStructure,
      (∃ r, parseBios raw = .ok r) ∧ (∃ r, parseSystem raw = .ok r) ∧
      (∃ r, parseBaseboard raw = .ok r) ∧ (∃ r, parseChassis raw = .ok r) ∧
      (∃ r, parseProcessor raw = .ok r) ∧ (∃ r, parseCache raw = .ok r) ∧
      (∃ r, parseSystemSlot raw = .ok r) ∧ (∃ r, parseOemStrings raw = .ok r) ∧
      (∃ r, parseMemoryArray raw = .ok r) ∧ (∃ r, parseMemoryDevice raw = .ok r) ∧
      (∃ r, parseIpmiDevice raw = .ok r) ∧ ∃ r, parseTpmDevice raw = .ok r :=
  ⟨readTables_outcome, fun parsed => ⟨_, aggregate_eq parsed⟩, fun raw =>
    ⟨⟨_, parseBios_eq raw⟩, ⟨_, parseSystem_eq raw⟩, ⟨_, parseBaseboard_eq raw⟩,
      ⟨_, parseChassis_eq raw⟩, ⟨_, parseProcessor_eq raw⟩, ⟨_, parseCache_eq raw⟩,
      ⟨_, parseSystemSlot_eq raw⟩, ⟨_, rfl⟩, ⟨_, parseMemoryArray_eq raw⟩,
      ⟨_, parseMemoryDevice_eq raw⟩, ⟨_, parseIpmiDevice_eq raw⟩, ⟨_, parseTpmDevice_eq raw⟩⟩⟩

/-! ## The file system -/

/-- The file is opened and read. -/
def FileSystem.Reads (fs : FileSystem) (path : String) (b : Bytes) : Prop :=
  fs.openRb path = .ok () ∧ fs.read path = .ok b

/-- The `open` fails, or the `read` after it. -/
def FileSystem.Fails (fs : FileSystem) (path : String) (e : OSError) : Prop :=
  fs.openRb path = .error e ∨ fs.openRb path = .ok () ∧ fs.read path = .error e

theorem FileSystem.slurp_eq_ok_iff {fs : FileSystem} {path : String} {b : Bytes} :
    fs.slurp path = .ok b ↔ fs.Reads path b := by
  unfold FileSystem.slurp FileSystem.Reads
  cases fs.openRb path <;> simp

theorem FileSystem.slurp_eq_error_iff {fs : FileSystem} {path : String} {e : OSError} :
    fs.slurp path = .error e ↔ fs.Fails path e := by
  unfold FileSystem.slurp FileSystem.Fails
  cases fs.openRb path <;> simp

/-- The files are there when looked for, and one of them then fails to be opened
or read, with anything but a `PermissionError`. -/
def EscapingFailure (fs : FileSystem) (e : OSError) : Prop :=
  (fs.pathExists (entryPointPath fs) = true ∧ fs.pathExists (tablesPath fs) = true) ∧
    e.cls ≠ .permissionError ∧
    (fs.Fails (entryPointPath fs) e ∨
      (∃ b, fs.Reads (entryPointPath fs) b) ∧ fs.Fails (tablesPath fs) e)

/-- What reading one file can end in. -/
theorem readOrPermissionError_cases (fs : FileSystem) (path : String) :
    (∃ b, fs.Reads path b ∧ readOrPermissionError fs path = .ok b) ∨
    (∃ e, fs.Fails path e ∧ e.cls = .permissionError ∧
      readOrPermissionError fs path = .error (.dmi (.permission path e))) ∨
    ∃ e, fs.Fails path e ∧ e.cls ≠ .permissionError ∧
      readOrPermissionError fs path = .error (.builtin (.osError e)) := by
  unfold readOrPermissionError
  cases hslurp : fs.slurp path with
  | ok b => exact Or.inl ⟨b, FileSystem.slurp_eq_ok_iff.mp hslurp, rfl⟩
  | error e =>
      have hfails := FileSystem.slurp_eq_error_iff.mp hslurp
      by_cases hcls : e.cls = .permissionError
      · exact Or.inr (Or.inl ⟨e, hfails, hcls, by simp [hcls]⟩)
      · exact Or.inr (Or.inr ⟨e, hfails, hcls, by simp [hcls]⟩)

theorem FileSystem.Fails.not_reads {fs : FileSystem} {path : String} {e : OSError} {b : Bytes}
    (h : fs.Fails path e) : ¬ fs.Reads path b := by
  intro hreads
  have := (slurp_eq_error_iff.mpr h).symm.trans (slurp_eq_ok_iff.mpr hreads)
  simp at this

theorem FileSystem.Fails.unique {fs : FileSystem} {path : String} {e e' : OSError}
    (h : fs.Fails path e) (h' : fs.Fails path e') : e = e' :=
  Except.error.inj ((slurp_eq_error_iff.mpr h).symm.trans (slurp_eq_error_iff.mpr h'))

/-- A run of `read_dmi` ends in a `DMIInfo`, in a `DMIError`, or in an `OSError`
that escapes. -/
theorem readDmi_cases (fs : FileSystem) :
    ((∀ e, ¬ EscapingFailure fs e) ∧
      ((∃ d, readDmi fs = .ok d) ∨ ∃ e, readDmi fs = .error (.dmi e))) ∨
    ∃ e, EscapingFailure fs e ∧ readDmi fs = .error (.builtin (.osError e)) := by
  by_cases havailable : isAvailable fs = true
  · have hexists : fs.pathExists (entryPointPath fs) = true ∧
        fs.pathExists (tablesPath fs) = true := by
      simpa [isAvailable] using havailable
    rcases readOrPermissionError_cases fs (entryPointPath fs) with
      ⟨epBytes, hreads, hep⟩ | ⟨e, hfails, hcls, hep⟩ | ⟨e, hfails, hcls, hep⟩
    · rcases readOrPermissionError_cases fs (tablesPath fs) with
        ⟨tableBytes, hreads', htbl⟩ | ⟨e, hfails, hcls, htbl⟩ | ⟨e, hfails, hcls, htbl⟩
      · refine Or.inl ⟨?_, ?_⟩
        · rintro e ⟨-, -, hfails | ⟨-, hfails⟩⟩
          · exact hfails.not_reads hreads
          · exact hfails.not_reads hreads'
        · have hrun : readDmi fs = readTables epBytes tableBytes := by
            simp [readDmi, parseDmi, havailable, hep, htbl, readTables]
          rcases readTables_outcome epBytes tableBytes with ⟨d, hd⟩ | ⟨message, o, herror, -⟩
          · exact Or.inl ⟨d, hrun.trans hd⟩
          · exact Or.inr ⟨_, hrun.trans herror⟩
      · refine Or.inl ⟨?_, Or.inr ⟨.permission (tablesPath fs) e, ?_⟩⟩
        · rintro e' ⟨-, hne, hfails' | ⟨-, hfails'⟩⟩
          · exact hfails'.not_reads hreads
          · exact hne (hfails'.unique hfails ▸ hcls)
        · simp [readDmi, parseDmi, havailable, hep, htbl]
      · refine Or.inr ⟨e, ⟨hexists, hcls, Or.inr ⟨⟨_, hreads⟩, hfails⟩⟩, ?_⟩
        simp [readDmi, parseDmi, havailable, hep, htbl]
    · refine Or.inl ⟨?_, Or.inr ⟨.permission (entryPointPath fs) e, ?_⟩⟩
      · rintro e' ⟨-, hne, hfails' | ⟨⟨b, hreads⟩, -⟩⟩
        · exact hne (hfails'.unique hfails ▸ hcls)
        · exact hfails.not_reads hreads
      · simp [readDmi, parseDmi, havailable, hep]
    · refine Or.inr ⟨e, ⟨hexists, hcls, Or.inl hfails⟩, ?_⟩
      simp [readDmi, parseDmi, havailable, hep]
  · refine Or.inl ⟨?_, Or.inr ⟨.unavailable [entryPointPath fs, tablesPath fs], ?_⟩⟩
    · rintro e ⟨hexists, -⟩
      exact havailable (by simpa [isAvailable] using hexists)
    · simp [readDmi, parseDmi, havailable]

/-- Everything `read_dmi` raises is a `DMIError` exactly when no failure of the
file system escapes. -/
theorem readDmi_dmiError_iff (fs : FileSystem) :
    ((∃ d, readDmi fs = .ok d) ∨ ∃ e, readDmi fs = .error e ∧ e.isDMIError = true) ↔
      ∀ e, ¬ EscapingFailure fs e := by
  rcases readDmi_cases fs with ⟨hnone, hrun⟩ | ⟨e, hescapes, hrun⟩
  · refine iff_of_true ?_ hnone
    rcases hrun with hok | ⟨e, herror⟩
    · exact Or.inl hok
    · exact Or.inr ⟨_, herror, rfl⟩
  · refine iff_of_false ?_ fun hnone => hnone e hescapes
    rintro (⟨d, hd⟩ | ⟨e', herror, hdmi⟩)
    · rw [hrun] at hd
      simp at hd
    · rw [hrun, Except.error.injEq] at herror
      subst herror
      simp [Raised.isDMIError] at hdmi

/-- The entry point disappears between the existence check and the `open`. -/
theorem readDmi_raises_fileNotFound :
    ¬ ∀ fs : FileSystem, (∃ d, readDmi fs = .ok d) ∨
      ∃ e, readDmi fs = .error e ∧ e.isDMIError = true := by
  intro h
  have hrun := h
    { sysfsRoot := ""
      pathExists := fun _ => true
      openRb := fun _ => .error ⟨.fileNotFoundError, "[Errno 2] No such file or directory"⟩
      read := fun _ => .ok [] }
  rcases hrun with ⟨d, hd⟩ | ⟨e, herror, hdmi⟩
  · simp [readDmi, parseDmi, isAvailable, readOrPermissionError, FileSystem.slurp] at hd
  · simp [readDmi, parseDmi, isAvailable, readOrPermissionError, FileSystem.slurp] at herror
    subst herror
    simp [Raised.isDMIError] at hdmi

end TruenasPydmi
