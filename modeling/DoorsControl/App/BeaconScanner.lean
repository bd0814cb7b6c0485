import DoorsControl.Data.Base64Url

/-!
# The scanner of the phone

`BeaconScanner.kt`: what becomes of the manufacturer data of an advertisement.
`ScanRecord.getManufacturerSpecificData` reads the company number in front of it, low byte
first.
-/

namespace DoorsControl.App

/-- `MANUFACTURER_ID` -/
def manufacturerId : Nat := 0xffff

/-- `IDENTIFIER_BYTES` -/
def identifierBytes : Nat := 16

/-- `scanRecord?.getManufacturerSpecificData(id)` -/
def manufacturerSpecificData (id : Nat) : Bytes → Option Bytes
  | low :: high :: data => if high.toNat * 256 + low.toNat = id then some data else none
  | _ => none

/-- The identifier of `onScanResult`, if there is one. -/
def scannedIdentifier (manufacturerData : Bytes) : Option Text := do
  let payload ← manufacturerSpecificData manufacturerId manufacturerData
  if payload.length < identifierBytes then none
  else some (chars (urlsafeNoPad (payload.take identifierBytes)))

/-- What a board sends under the number that nobody has. -/
theorem scannedIdentifier_eq {data : Bytes} (length : data.length = identifierBytes) :
    scannedIdentifier (0xff :: 0xff :: data) = some (chars (urlsafeNoPad data)) := by
  have number : (0xff : UInt8).toNat * 256 + (0xff : UInt8).toNat = manufacturerId := by decide
  have read : manufacturerSpecificData manufacturerId (0xff :: 0xff :: data) = some data := by
    rw [manufacturerSpecificData, if_pos number]
  unfold scannedIdentifier
  rw [read, Option.bind_eq_bind, Option.bind_some, if_neg (by omega),
    List.take_of_length_le (le_of_eq length)]

end DoorsControl.App
