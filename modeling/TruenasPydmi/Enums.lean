/-
  Enums.lean --- `enums.py`: the names of feature bits.

  A table maps the mask of a bit to its name and is read in its order, as the
  mappings of the source are.  The functions take any integer, negative ones
  included: `&` is that of two's complement.
-/
import Mathlib.Data.Int.Bitwise
import TruenasPydmi.Models

set_option autoImplicit false

namespace TruenasPydmi

open TruenasPydmi.Python

/-! ## Tables -/

/-- The mask of a bit and its name. -/
abbrev BitTable : Type := List (Nat × String)

/-- `_MEMORY_TYPE_DETAIL_BITS` (Type 17, bits 1-15). -/
def memoryTypeDetailBits : BitTable :=
  [(0x0002, "Other"), (0x0004, "Unknown"), (0x0008, "Fast-paged"), (0x0010, "Static Column"),
    (0x0020, "Pseudo-static"), (0x0040, "RAMBus"), (0x0080, "Synchronous"), (0x0100, "CMOS"),
    (0x0200, "EDO"), (0x0400, "Window DRAM"), (0x0800, "Cache DRAM"), (0x1000, "Non-Volatile"),
    (0x2000, "Registered (Buffered)"), (0x4000, "Unbuffered (Unregistered)"),
    (0x8000, "LRDIMM")]

/-- `_MEMORY_OPERATING_MODE_BITS` (Type 17, bits 1-5). -/
def memoryOperatingModeBits : BitTable :=
  [(0x0002, "Other"), (0x0004, "Unknown"), (0x0008, "Volatile memory"),
    (0x0010, "Byte-accessible persistent memory"),
    (0x0020, "Block-accessible persistent memory")]

/-- `_BIOS_CHARACTERISTICS` (Type 0, bits 3-31). -/
def biosCharacteristics : BitTable :=
  [(0x0000000000000008, "BIOS characteristics not supported"),
    (0x0000000000000010, "ISA is supported"),
    (0x0000000000000020, "MCA is supported"),
    (0x0000000000000040, "EISA is supported"),
    (0x0000000000000080, "PCI is supported"),
    (0x0000000000000100, "PC Card (PCMCIA) is supported"),
    (0x0000000000000200, "PNP is supported"),
    (0x0000000000000400, "APM is supported"),
    (0x0000000000000800, "BIOS is upgradeable"),
    (0x0000000000001000, "BIOS shadowing is allowed"),
    (0x0000000000002000, "VLB is supported"),
    (0x0000000000004000, "ESCD support is available"),
    (0x0000000000008000, "Boot from CD is supported"),
    (0x0000000000010000, "Selectable boot is supported"),
    (0x0000000000020000, "BIOS ROM is socketed"),
    (0x0000000000040000, "Boot from PC Card (PCMCIA) is supported"),
    (0x0000000000080000, "EDD is supported"),
    (0x0000000000100000, "Japanese floppy for NEC 9800 1.2 MB is supported (int 13h)"),
    (0x0000000000200000, "Japanese floppy for Toshiba 1.2 MB is supported (int 13h)"),
    (0x0000000000400000, "5.25\"/360 kB floppy services are supported (int 13h)"),
    (0x0000000000800000, "5.25\"/1.2 MB floppy services are supported (int 13h)"),
    (0x0000000001000000, "3.5\"/720 kB floppy services are supported (int 13h)"),
    (0x0000000002000000, "3.5\"/2.88 MB floppy services are supported (int 13h)"),
    (0x0000000004000000, "Print screen service is supported (int 5h)"),
    (0x0000000008000000, "8042 keyboard services are supported (int 9h)"),
    (0x0000000010000000, "Serial services are supported (int 14h)"),
    (0x0000000020000000, "Printer services are supported (int 17h)"),
    (0x0000000040000000, "CGA/mono video services are supported (int 10h)"),
    (0x0000000080000000, "NEC PC-98")]

/-- `_BIOS_CHAR_EXT_BYTE_1` (Type 0, first extension byte). -/
def biosCharExtByte1 : BitTable :=
  [(0x01, "ACPI is supported"), (0x02, "USB legacy is supported"), (0x04, "AGP is supported"),
    (0x08, "I2O boot is supported"), (0x10, "LS-120 boot is supported"),
    (0x20, "ATAPI Zip drive boot is supported"), (0x40, "IEEE 1394 boot is supported"),
    (0x80, "Smart battery is supported")]

/-- `_BIOS_CHAR_EXT_BYTE_2` (Type 0, second extension byte). -/
def biosCharExtByte2 : BitTable :=
  [(0x01, "BIOS boot specification is supported"),
    (0x02, "Function key-initiated network boot is supported"),
    (0x04, "Targeted content distribution is supported"), (0x08, "UEFI is supported"),
    (0x10, "System is a virtual machine"), (0x20, "Manufacturing mode is supported"),
    (0x40, "Manufacturing mode is enabled")]

/-- `_CACHE_SRAM_TYPE_BITS` (Type 7). -/
def cacheSramTypeBits : BitTable :=
  [(0x01, "Other"), (0x02, "Unknown"), (0x04, "Non-burst"), (0x08, "Burst"),
    (0x10, "Pipeline Burst"), (0x20, "Synchronous"), (0x40, "Asynchronous")]

/-! ## Decoding -/

/-- `value & bit`, as a condition. -/
def hasBit (value : Int) (bit : Nat) : Bool := Int.land value bit != 0

/-- The names of a table whose bit is set, in the order of the table. -/
def bitNames (table : BitTable) (value : Int) : List String :=
  (table.filter fun entry => hasBit value entry.1).map Prod.snd

/-- `memory_type_detail_names`. -/
def memoryTypeDetailNames (value : Int) : List String := bitNames memoryTypeDetailBits value

/-- `memory_operating_mode_names`. -/
def memoryOperatingModeNames (value : Int) : List String :=
  bitNames memoryOperatingModeBits value

/-- `cache_sram_type_names`. -/
def cacheSramTypeNames (value : Int) : List String := bitNames cacheSramTypeBits value

/-- `bios_characteristics_names`.  Bit 3 of the qword skips the rest of the qword,
but not the extension bytes, each of which is decoded when it is there. -/
def biosCharacteristicsNames (value : Int) (extensionBytes : Bytes) : List String :=
  let names :=
    if hasBit value 0x08 then ["BIOS characteristics not supported"]
    else bitNames (biosCharacteristics.filter fun entry => entry.1 != 0x08) value
  let names :=
    match extensionBytes[0]? with
    | some byte => names ++ bitNames biosCharExtByte1 byte.toNat
    | none => names
  match extensionBytes[1]? with
  | some byte => names ++ bitNames biosCharExtByte2 byte.toNat
  | none => names

/-- Human-readable feature names of a `BIOSInfo`. -/
def BIOSInfo.characteristicsDecoded (b : BIOSInfo) : List String :=
  biosCharacteristicsNames b.characteristics b.characteristicsExtension

end TruenasPydmi
