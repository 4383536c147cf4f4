/-!
# Decimal digits

The characters of the category `Nd` in version 16 of Unicode. They come in runs of ten, zero to nine, so the
module lists the zeros:

* `isDecimalDigit`, the category;
* `isAsciiDigit` and `digitValue`, its ten ASCII members and their values;
* `numeral`, the number written by ASCII digits.
-/

namespace DepartureRules.Text
set_option autoImplicit false

/-! ## The category -/

/-- The code points of the digits zero outside ASCII, in version 16 of Unicode. -/
def decimalZeros : List Nat := [
    0x660, 0x6F0, 0x7C0, 0x966, 0x9E6, 0xA66, 0xAE6, 0xB66, 0xBE6, 0xC66, 0xCE6, 0xD66, 0xDE6,
    0xE50, 0xED0, 0xF20, 0x1040, 0x1090, 0x17E0, 0x1810, 0x1946, 0x19D0, 0x1A80, 0x1A90, 0x1B50,
    0x1BB0, 0x1C40, 0x1C50, 0xA620, 0xA8D0, 0xA900, 0xA9D0, 0xA9F0, 0xAA50, 0xABF0, 0xFF10,
    0x104A0, 0x10D30, 0x10D40, 0x11066, 0x110F0, 0x11136, 0x111D0, 0x112F0, 0x11450, 0x114D0,
    0x11650, 0x116C0, 0x116D0, 0x116DA, 0x11730, 0x118E0, 0x11950, 0x11BF0, 0x11C50, 0x11D50,
    0x11DA0, 0x11F50, 0x16130, 0x16A60, 0x16AC0, 0x16B50, 0x16D70, 0x1CCF0, 0x1D7CE, 0x1D7D8,
    0x1D7E2, 0x1D7EC, 0x1D7F6, 0x1E140, 0x1E2F0, 0x1E4F0, 0x1E5F1, 0x1E950, 0x1FBF0
  ]

/-- One of the digits `0` to `9`. -/
def isAsciiDigit (c : Char) : Bool :=
  '0'.toNat ≤ c.toNat && c.toNat ≤ '9'.toNat

/-- A character of the category `Nd`: a zero of the table or one of the nine characters after it. -/
def isDecimalDigit (c : Char) : Bool :=
  isAsciiDigit c ||
    (128 ≤ c.toNat && decimalZeros.any fun z => z ≤ c.toNat && c.toNat ≤ z + 9)

theorem isDecimalDigit_of_isAsciiDigit {c : Char} (h : isAsciiDigit c = true) :
    isDecimalDigit c = true := by
  simp [isDecimalDigit, h]

theorem isAsciiDigit_of_isDecimalDigit {c : Char} (h : isDecimalDigit c = true)
    (ascii : c.toNat < 128) : isAsciiDigit c = true := by
  simp only [isDecimalDigit, Bool.or_eq_true, Bool.and_eq_true, decide_eq_true_eq] at h
  rcases h with h | h
  · exact h
  · omega

example : isDecimalDigit '\u0665' = true ∧ isAsciiDigit '\u0665' = false := by decide

/-! ## Values -/

/-- The value of an ASCII digit. -/
def digitValue (c : Char) : Nat :=
  c.toNat - '0'.toNat

/-- The number that a row of ASCII digits stands for. -/
def numeral (digits : List Char) : Nat :=
  digits.foldl (fun n c => 10 * n + digitValue c) 0

/-- The ASCII digit of a number below ten. -/
def digitChar (n : Nat) : Char :=
  Char.ofNat ('0'.toNat + n % 10)

theorem numeral_concat (digits : List Char) (c : Char) :
    numeral (digits ++ [c]) = 10 * numeral digits + digitValue c := by
  simp [numeral]

end DepartureRules.Text
