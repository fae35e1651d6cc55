/-
  Reader.lean --- `reader.py`, and `parse_dmi` of `private/parser.py` under it.

  The operating system is a parameter: `FileSystem` holds its answers to the
  calls the program makes, one answer for each call and path.  The existence
  check, the `open` and the `read` of one file are answered independently, so a
  file that is there when it is looked for and gone when it is opened is one of
  the behaviours.
-/
import TruenasPydmi.Parser
import TruenasPydmi.Structures

set_option autoImplicit false

namespace TruenasPydmi

open TruenasPydmi.Foundation TruenasPydmi.Python

/-! ## Reading the tables -/

/-- What the operating system answers. -/
structure FileSystem where
  /-- `os.environ.get("TRUENAS_PYDMI_SYSFS_ROOT", "")` -/
  sysfsRoot : String
  /-- `Path(path).exists()` -/
  pathExists : String → Bool
  /-- `open(path, "rb")` -/
  openRb : String → Except OSError Unit
  /-- `f.read()` on the file opened -/
  read : String → Except OSError Bytes

/-- `ENTRY_POINT_REL_PATH`. -/
def entryPointRelPath : String := "/sys/firmware/dmi/tables/smbios_entry_point"

/-- `TABLES_REL_PATH`. -/
def tablesRelPath : String := "/sys/firmware/dmi/tables/DMI"

/-- `_entry_point_path()`. -/
def entryPointPath (fs : FileSystem) : String := fs.sysfsRoot ++ entryPointRelPath

/-- `_tables_path()`. -/
def tablesPath (fs : FileSystem) : String := fs.sysfsRoot ++ tablesRelPath

/-- `is_available`. -/
def isAvailable (fs : FileSystem) : Bool :=
  fs.pathExists (entryPointPath fs) && fs.pathExists (tablesPath fs)

/-- `with open(path, "rb") as f: f.read()`. -/
def FileSystem.slurp (fs : FileSystem) (path : String) : Except OSError Bytes := do
  fs.openRb path
  fs.read path

/-- One of the two `try` blocks of `parse_dmi`: only a `PermissionError` is
caught. -/
def readOrPermissionError (fs : FileSystem) (path : String) : Except Raised Bytes :=
  match fs.slurp path with
  | .ok b => .ok b
  | .error e =>
      if e.cls = .permissionError then .error (.dmi (.permission path e))
      else .error (.builtin (.osError e))

/-- Result of one full read and parse pass. -/
structure ParsedSMBIOS where
  entryPoint : EntryPoint
  structures : List RawStructure

/-- What `parse_dmi` does with the contents of the two files. -/
def parseTables (epBytes tableBytes : Bytes) : Except Raised ParsedSMBIOS := do
  let entryPoint ← parseEntryPoint epBytes
  let structures ← walkStructures tableBytes entryPoint.tableLength
  return { entryPoint := entryPoint, structures := structures }

/-- `parse_dmi`. -/
def parseDmi (fs : FileSystem) : Except Raised ParsedSMBIOS :=
  if ¬ isAvailable fs then
    .error (.dmi (.unavailable [entryPointPath fs, tablesPath fs]))
  else do
    let epBytes ← readOrPermissionError fs (entryPointPath fs)
    let tableBytes ← readOrPermissionError fs (tablesPath fs)
    parseTables epBytes tableBytes

/-! ## Aggregating the structures -/

section

variable {α : Type}

/-- `_first`. -/
def first : List RawStructure → Nat → (RawStructure → Except BuiltinError α) →
    Except BuiltinError (Option α)
  | [], _, _ => return none
  | r :: raws, typeId, fn =>
      if r.type = typeId then do
        let a ← fn r
        return some a
      else first raws typeId fn

/-- `_all`. -/
def all : List RawStructure → Nat → (RawStructure → Except BuiltinError α) →
    Except BuiltinError (List α)
  | [], _, _ => return []
  | r :: raws, typeId, fn =>
      if r.type = typeId then do
        let a ← fn r
        let rest ← all raws typeId fn
        return a :: rest
      else all raws typeId fn

end

/-- The loop of `read_dmi` that flattens the OEM strings. -/
def extendOem : List Str → List RawStructure → Except BuiltinError (List Str)
  | oem, [] => return oem
  | oem, r :: raws =>
      if r.type = 11 then do
        let strings ← parseOemStrings r
        extendOem (oem ++ strings) raws
      else extendOem oem raws

/-- `baseboards and baseboards[0].product == "iXsystems TrueNAS X10"`. -/
def isX10 (baseboards : List BaseboardInfo) : Except BuiltinError Bool :=
  if truthy baseboards then do
    let b ← getItem baseboards 0
    return b.product == "iXsystems TrueNAS X10".toList
  else return false

/-- `_tn_model`. -/
def tnModel (system : Option SystemInfo) (baseboards : List BaseboardInfo) :
    Except BuiltinError Str := do
  match system.filter fun s => startsWithAny s.productName platformPrefixes with
  | some system => return system.productName
  | none =>
      if ← isX10 baseboards then return "TRUENAS-X".toList
      else return truenasUnknown

/-- What `read_dmi` does with the structures it has read. -/
def aggregate (parsed : ParsedSMBIOS) : Except BuiltinError DMIInfo := do
  let raws := parsed.structures
  let system ← first raws 1 parseSystem
  let baseboards ← all raws 2 parseBaseboard
  let oem ← extendOem [] raws
  return { smbiosVersion := (parsed.entryPoint.major, parsed.entryPoint.minor)
           bios := ← first raws 0 parseBios
           system := system
           baseboards := baseboards
           chassis := ← all raws 3 parseChassis
           processors := ← all raws 4 parseProcessor
           caches := ← all raws 7 parseCache
           systemSlots := ← all raws 9 parseSystemSlot
           oemStrings := oem
           memoryArrays := ← all raws 16 parseMemoryArray
           memoryDevices := ← all raws 17 parseMemoryDevice
           ipmiDevices := ← all raws 38 parseIpmiDevice
           tpmDevices := ← all raws 43 parseTpmDevice
           rawStructures := raws
           tnModel := ← tnModel system baseboards }

/-- `read_dmi` on the contents of the two files. -/
def readTables (epBytes tableBytes : Bytes) : Except Raised DMIInfo := do
  let parsed ← parseTables epBytes tableBytes
  aggregate parsed

/-- `read_dmi`. -/
def readDmi (fs : FileSystem) : Except Raised DMIInfo := do
  let parsed ← parseDmi fs
  aggregate parsed

end TruenasPydmi
