/-
  Views.lean --- the properties of `models.py`.

  A property of a record is computed from one of its fields each time it is read.  The
  properties of `DMIInfo` and the two `populated` are in Models, those of `BIOSInfo` in
  Enums.
-/
import Mathlib.Data.Nat.Bitwise
import TruenasPydmi.Enums
import TruenasPydmi.Names

set_option autoImplicit false

namespace TruenasPydmi

open TruenasPydmi.Python

/-! ## ProcessorInfo -/

/-- Operating voltage in tenths of a volt: the current one in modern mode (bit 7), the
highest of those flagged in legacy mode. -/
def ProcessorInfo.voltageVolts (p : ProcessorInfo) : Option Nat :=
  if p.voltageRaw = 0 then none
  else if truthy (p.voltageRaw &&& 0x80) then some (p.voltageRaw &&& 0x7F)
  else if truthy (p.voltageRaw &&& 0x01) then some 50
  else if truthy (p.voltageRaw &&& 0x02) then some 33
  else if truthy (p.voltageRaw &&& 0x04) then some 29
  else none

/-! ## CacheInfo -/

namespace CacheInfo

variable (c : CacheInfo)

/-- 1-based cache level, bits 0-2 of the configuration word. -/
def cacheLevel : Nat := (c.configuration &&& 0x07) + 1

/-- Bit 3 of the configuration word. -/
def socketed : Bool := truthy (c.configuration &&& 0x08)

/-- Bit 7 of the configuration word. -/
def enabledAtBoot : Bool := truthy (c.configuration &&& 0x80)

/-- Location relative to the CPU module, bits 5-6. -/
def locationName : String := cacheLocationName ((c.configuration >>> 5) &&& 0x03 : Nat)

/-- Write Through, Write Back, Varies or Unknown, bits 8-9. -/
def operationalModeName : String :=
  cacheOperationalModeName ((c.configuration >>> 8) &&& 0x03 : Nat)

def errorCorrectionName : String := cacheErrorCorrectionName c.errorCorrection

def systemCacheTypeName : String := cacheSystemTypeName c.systemCacheType

def associativityName : String := cacheAssociativityName c.associativity

def supportedSramTypeNames : List String := cacheSramTypeNames c.supportedSramTypes

def currentSramTypeNames : List String := cacheSramTypeNames c.currentSramType

end CacheInfo

/-! ## MemoryDevice -/

namespace MemoryDevice

variable (d : MemoryDevice)

def memoryTechnologyName : String := TruenasPydmi.memoryTechnologyName d.memoryTechnology

def operatingModeNames : List String := memoryOperatingModeNames d.operatingModeCapability

end MemoryDevice

/-! ## IPMIDevice -/

namespace IPMIDevice

variable (d : IPMIDevice)

/-- Canonical 7-bit BMC slave address: the stored byte has the R/W bit below it. -/
def i2cSlaveAddressCanonical : Nat := d.i2cSlaveAddress >>> 1

/-- Base address with the address-space flag cleared. -/
def baseAddressValue : Nat := Nat.ldiff d.baseAddress 0x01

/-- True for an I/O port, false for memory. -/
def baseAddressIoMapped : Bool := truthy (d.baseAddress &&& 0x01)

end IPMIDevice

/-! ## TPMDevice -/

/-- Firmware revision as `major.minor`: bits 16-23 and 0-7 of the first word. -/
def TPMDevice.firmwareVersion (d : TPMDevice) : Str :=
  let major := (d.firmwareVersion1 >>> 16) &&& 0xFF
  let minor := d.firmwareVersion1 &&& 0xFF
  formatNat 10 1 major ++ '.' :: formatNat 10 1 minor

end TruenasPydmi
