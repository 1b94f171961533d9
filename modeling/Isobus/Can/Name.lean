import Mathlib.Data.UInt

/-!
# ISO NAMEs

The fields of a 64-bit NAME (`can_NAME.cpp`) and the filters by which a partner is
recognised (`can_NAME_filter.cpp`, `can_partnered_control_function.cpp`).
-/

namespace Isobus.Can

abbrev NAME := UInt64

namespace NAME

def getFullName (name : NAME) : UInt64 := name

def getIdentityNumber (name : NAME) : UInt32 := (name &&& 0x001FFFFF).toUInt32

def getManufacturerCode (name : NAME) : UInt16 := ((name >>> 21) &&& 0x07FF).toUInt16

def getEcuInstance (name : NAME) : UInt8 := ((name >>> 32) &&& 0x07).toUInt8

def getFunctionInstance (name : NAME) : UInt8 := ((name >>> 35) &&& 0x1F).toUInt8

def getFunctionCode (name : NAME) : UInt8 := ((name >>> 40) &&& 0xFF).toUInt8

def getDeviceClass (name : NAME) : UInt8 := ((name >>> 49) &&& 0x7F).toUInt8

def getDeviceClassInstance (name : NAME) : UInt8 := ((name >>> 56) &&& 0x0F).toUInt8

def getIndustryGroup (name : NAME) : UInt8 := ((name >>> 60) &&& 0x07).toUInt8

def getArbitraryAddressCapable (name : NAME) : Bool := name >>> 63 ≠ 0

end NAME

inductive NAMEParameters
  | identityNumber
  | manufacturerCode
  | ecuInstance
  | functionInstance
  | functionCode
  | deviceClass
  | deviceClassInstance
  | industryGroup
  | arbitraryAddressCapable
  deriving DecidableEq

structure NAMEFilter where
  parameter : NAMEParameters
  value : UInt32
  deriving DecidableEq

def NAMEFilter.checkNameMatchesFilter (filter : NAMEFilter) (name : NAME) : Bool :=
  match filter.parameter with
  | .identityNumber => filter.value = name.getIdentityNumber
  | .manufacturerCode => filter.value = name.getManufacturerCode.toUInt32
  | .ecuInstance => filter.value = name.getEcuInstance.toUInt32
  | .functionInstance => filter.value = name.getFunctionInstance.toUInt32
  | .functionCode => filter.value = name.getFunctionCode.toUInt32
  | .deviceClass => filter.value = name.getDeviceClass.toUInt32
  | .deviceClassInstance => filter.value = name.getDeviceClassInstance.toUInt32
  | .industryGroup => filter.value = name.getIndustryGroup.toUInt32
  | .arbitraryAddressCapable => decide (filter.value ≠ 0) = name.getArbitraryAddressCapable

def checkMatchesName (filters : List NAMEFilter) (name : NAME) : Bool :=
  !filters.isEmpty && filters.all (·.checkNameMatchesFilter name)

end Isobus.Can
