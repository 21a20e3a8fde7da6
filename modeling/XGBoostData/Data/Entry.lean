import Mathlib

/-!
# Entry store: `float` values and `Entry` records (spec §3, §4.1, §4.3)

WHAT THIS FILE IS FOR.  Every decision the ingestion path takes about a value is
one of four floating-point predicates: `std::isnan` (through `common::CheckNAN`),
`std::isinf`, `value != missing` and, for `Entry::CmpValue`, `<`.  None of them
needs arithmetic, so a `float` is kept here as its IEEE-754 binary32 bit pattern
and the predicates are read off the sign, exponent and mantissa fields.  Equality
and order are IEEE's: a NaN is unordered and equal to nothing, itself included,
and `+0.0 == -0.0`.

`Entry` is declared in `include/xgboost/data.h`, which is not in the excerpt.  It
is modelled from spec §3, with the index 32 bits wide: that is the width the
source converts to where it builds an entry (`static_cast<bst_uint>` in
`SparsePage::GetTranspose`, and `Entry(element.column_idx, …)` in
`SparsePage::Push`).
-/

set_option autoImplicit false

namespace XGBoostData

/-- A `float` (`bst_float`), as its IEEE-754 binary32 bit pattern. -/
structure F32 where
  bits : UInt32
  deriving DecidableEq, Repr

namespace F32

/-- The biased exponent field, bits 23 to 30. -/
def exponent (x : F32) : Nat := x.bits.toNat / 2 ^ 23 % 2 ^ 8

/-- The mantissa field, bits 0 to 22. -/
def mantissa (x : F32) : Nat := x.bits.toNat % 2 ^ 23

/-- `std::isnan`: every exponent bit set and a non-zero mantissa. -/
def isNaN (x : F32) : Bool := x.exponent == 255 && x.mantissa != 0

/-- `std::isinf`: every exponent bit set and a zero mantissa. -/
def isInf (x : F32) : Bool := x.exponent == 255 && x.mantissa == 0

/-- The magnitude bits, the sign cleared: `std::abs` on the bit pattern. -/
def magnitude (x : F32) : Nat := x.bits.toNat % 2 ^ 31

/-- The position of a non-NaN value on the real line, as an integer that orders
values as IEEE does: sign-magnitude read as a signed number, both zeros at `0`. -/
def key (x : F32) : Int :=
  if x.bits.toNat < 2 ^ 31 then (x.magnitude : Int) else -(x.magnitude : Int)

/-- IEEE `x == y` on `float`. -/
def feq (x y : F32) : Bool := !x.isNaN && !y.isNaN && x.key == y.key

/-- IEEE `x < y` on `float`. -/
def flt (x y : F32) : Bool := !x.isNaN && !y.isNaN && decide (x.key < y.key)

/-- `0.0f`, the value of a value-initialised `float`. -/
def zero : F32 := ⟨0⟩

/-- `1.0f`. -/
def one : F32 := ⟨0x3F800000⟩

/-- `2.0f`. -/
def two : F32 := ⟨0x40000000⟩

/-- The quiet NaN `std::numeric_limits<float>::quiet_NaN()`. -/
def nan : F32 := ⟨0x7FC00000⟩

/-- `+infinity`. -/
def inf : F32 := ⟨0x7F800000⟩

end F32

/-- Modelled from the spec: `common::CheckNAN` (`common/math.h` is not in the
excerpt), the NaN test of the Validity Filter (spec §4.3). -/
def checkNAN (v : F32) : Bool := v.isNaN

/-- Modelled from the spec: `xgboost::Entry` (`include/xgboost/data.h` is not in the
excerpt), a `(column_index, value)` record (spec §3). -/
structure Entry where
  index : UInt32
  fvalue : F32
  deriving DecidableEq, Repr

/-- `Entry()`: index and value value-initialised, which is what `resize` fills with. -/
instance : Inhabited Entry := ⟨⟨0, F32.zero⟩⟩

namespace Entry

/-- `Entry::CmpIndex`: ascending column index. -/
def cmpIndex (a b : Entry) : Bool := decide (a.index.toNat < b.index.toNat)

/-- `Entry::CmpValue`: ascending value, IEEE `<`. -/
def cmpValue (a b : Entry) : Bool := F32.flt a.fvalue b.fvalue

end Entry

end XGBoostData
