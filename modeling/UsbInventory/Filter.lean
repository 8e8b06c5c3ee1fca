/-
Filters on the vendor and product of a device. A filter is two sides joined by a colon, each a
hexadecimal id of at most four digits or `*` for any id. An empty list of filters admits everything.
-/
import UsbInventory.Number.Numeral

namespace UsbInventory

/-- A filter: the ids it asks for, `none` where any will do. -/
structure DeviceFilter where
  vendor : Option UInt16
  product : Option UInt16
  deriving DecidableEq, Repr

/-- The two sides of a filter. -/
inductive FilterSide where
  | vendor | product
  deriving DecidableEq, Repr

/-- Why a text is no filter. -/
inductive FilterError where
  | noColon (text : String)
  | manyColons (text : String)
  | noMarker (side : FilterSide) (part : String)
  | digitCount (side : FilterSide) (part : String)
  | notHex (side : FilterSide) (part : String)
  deriving DecidableEq, Repr

namespace FilterError

def sideName : FilterSide → String
  | .vendor => "VID"
  | .product => "PID"

def message : FilterError → String
  | noColon text =>
    s!"Invalid filter format '{text}', expected VID:PID (e.g., '0x1234:0x5678' or '0x1234:*')"
  | manyColons text => s!"Invalid filter format '{text}', expected exactly one ':'"
  | noMarker side part =>
    s!"Invalid {sideName side} '{part}', must start with '0x' (e.g., '0x1234')"
  | digitCount side part => s!"Invalid {sideName side} '{part}', hex part must be 1-4 digits"
  | notHex side part => s!"Invalid {sideName side} '{part}', not a valid hex number"

end FilterError

/-- What stands before and after the first occurrence of `mark`. -/
def splitAt? (mark : Char) : List Char → Option (List Char × List Char)
  | [] => none
  | c :: rest =>
    if c = mark then some ([], rest) else (splitAt? mark rest).map fun (a, b) => (c :: a, b)

/-- The number of bytes of a text in UTF-8. -/
def byteLength : List Char → Nat
  | [] => 0
  | c :: rest => c.utf8Size + byteLength rest

/-- A 16-bit id in hexadecimal. -/
def hexId? (cs : List Char) : Option UInt16 :=
  match Numeral.unsigned 16 0xFFFF cs with
  | .ok n => some (UInt16.ofNat n)
  | .error _ => none

namespace DeviceFilter

/-- The digits after the marker `0x` or `0X`. -/
def afterMarker? : List Char → Option (List Char)
  | '0' :: 'x' :: digits => some digits
  | '0' :: 'X' :: digits => some digits
  | _ => none

/-- Reads one side of a filter. -/
def parseSide (side : FilterSide) (part : List Char) : Except FilterError (Option UInt16) :=
  if part = ['*'] then .ok none
  else
    match afterMarker? part with
    | none => .error (.noMarker side (String.ofList part))
    | some digits =>
      if digits.isEmpty || byteLength digits > 4 then
        .error (.digitCount side (String.ofList part))
      else
        match hexId? digits with
        | some id => .ok (some id)
        | none => .error (.notHex side (String.ofList part))

/-- Reads a filter. -/
def parse (text : String) : Except FilterError DeviceFilter :=
  match splitAt? ':' text.toList with
  | none => .error (.noColon text)
  | some (vendor, product) =>
    if product.contains ':' then .error (.manyColons text)
    else do
      let vendor ← parseSide .vendor vendor
      let product ← parseSide .product product
      return ⟨vendor, product⟩

/-- Whether a side admits an id. -/
def admits (side : Option UInt16) (id : UInt16) : Bool := side.all (· == id)

/-- Whether a filter admits a device. -/
def accepts (f : DeviceFilter) (vendor product : UInt16) : Bool :=
  admits f.vendor vendor && admits f.product product

/-- Reads a list of filters; the first bad one decides the error. -/
def parseAll (texts : List String) : Except FilterError (List DeviceFilter) := texts.mapM parse

/-- Whether a list of filters admits a device. -/
def allowed (filters : List DeviceFilter) (vendor product : UInt16) : Bool :=
  filters.isEmpty || filters.any (·.accepts vendor product)

end DeviceFilter

/-- The vendor and product ids that a group name spells in hexadecimal around its first dot. -/
def groupIds? (group : List Char) : Option (UInt16 × UInt16) := do
  let (vendor, product) ← splitAt? '.' group
  let vendor ← hexId? vendor
  let product ← hexId? product
  return (vendor, product)

end UsbInventory
