import DepartureRules.Json.Fault
import DepartureRules.Text.DecimalDigit

/-!
# Numbers in documents

Rule documents hold natural numbers only. A number may nevertheless be written with a sign, a fraction or
an exponent, and then it is read to its end before it is refused:

* `readNumber` gives `some n` for a natural number below `2 ^ 64` that is written by its digits alone and
  `none` for every other number;
* `skipNumber` passes over a number whose value does not matter.

A number whose size is beyond the double-precision range is malformed for `readNumber`.
-/

namespace DepartureRules.Json
open DepartureRules.Text
set_option autoImplicit false

/-! ## Digits -/

/-- The largest significand kept while the digits are read. -/
def significandLimit : Nat :=
  18446744073709551615

/-- Takes digits into a significand as long as it stays within the limit. The answer holds the
significand, the number of digits taken and the text after them. -/
def absorbDigits (significand : Nat) : List Char → Nat × Nat × List Char
  | [] => (significand, 0, [])
  | c :: rest =>
    if isAsciiDigit c && significand * 10 + digitValue c ≤ significandLimit then
      let (total, taken, after) := absorbDigits (significand * 10 + digitValue c) rest
      (total, taken + 1, after)
    else (significand, 0, c :: rest)

/-- The leading digits of a text and what follows them. -/
def spanDigits (s : List Char) : List Char × List Char :=
  s.span isAsciiDigit

/-- A digit stands at the head of the text. -/
def startsWithDigit : List Char → Bool
  | c :: _ => isAsciiDigit c
  | [] => false

/-! ## Reading -/

/-- A number rounded to 53 binary places; a half goes to the even neighbour. -/
def roundBinary (n : Nat) : Nat :=
  let unit := Nat.pow 2 (n.log2 - 52)
  let rest := n % unit
  let below := n / unit
  if 2 * rest < unit || (2 * rest == unit && below % 2 == 0) then below * unit else (below + 1) * unit

/-- The least size that is beyond the double-precision range. -/
def rangeLimit : Nat :=
  Nat.pow 2 1024 - Nat.pow 2 970

/-- The value `significand * 10 ^ exponent` is within the double-precision range. The significand and the
power are rounded before they are multiplied. -/
def withinRange (significand : Nat) (exponent : Int) : Bool :=
  significand == 0 || exponent ≤ 0 ||
    (exponent ≤ 308 &&
      roundBinary significand * roundBinary (Nat.pow 10 exponent.toNat) < rangeLimit)

/-- The end of a number that is not written by its digits alone. -/
def inexactNumber (significand : Nat) (exponent : Int) (rest : List Char) :
    Except Fault (Option Nat × List Char) :=
  if withinRange significand exponent then .ok (none, rest) else .error .malformed

/-- Reads an exponent from behind its letter. -/
def readExponent (significand : Nat) (scale : Int) (s : List Char) :
    Except Fault (Option Nat × List Char) :=
  let (negative, s) :=
    match s with
    | '+' :: rest => (false, rest)
    | '-' :: rest => (true, rest)
    | other => (false, other)
  match s with
  | [] => .error .ended
  | c :: rest =>
    if isAsciiDigit c then
      let (digits, after) := spanDigits (c :: rest)
      let exponent : Int := numeral digits
      inexactNumber significand (if negative then scale - exponent else scale + exponent) after
    else .error .malformed

/-- Reads what may follow the fraction or the whole part of a number that is inexact already. -/
def inexactTail (significand : Nat) (scale : Int) (s : List Char) :
    Except Fault (Option Nat × List Char) :=
  match s with
  | 'e' :: rest => readExponent significand scale rest
  | 'E' :: rest => readExponent significand scale rest
  | other => inexactNumber significand scale other

/-- Reads a fraction from behind its point. -/
def readFraction (significand : Nat) (scale : Int) (s : List Char) :
    Except Fault (Option Nat × List Char) :=
  let (total, taken, after) := absorbDigits significand s
  if startsWithDigit after then inexactTail total (scale - taken) (spanDigits after).2
  else if taken == 0 then .error (if after.isEmpty then .ended else .malformed)
  else inexactTail total (scale - taken) after

/-- Reads what follows the whole part of a number. `dropped` counts the digits of the whole part that the
significand does not hold. -/
def numberTail (negative : Bool) (significand dropped : Nat) (s : List Char) :
    Except Fault (Option Nat × List Char) :=
  match s with
  | '.' :: rest => readFraction significand dropped rest
  | 'e' :: rest => readExponent significand dropped rest
  | 'E' :: rest => readExponent significand dropped rest
  | other =>
    if dropped == 0 then .ok (if negative then none else some significand, other)
    else inexactNumber significand dropped other

/-- Reads a number from behind its sign. -/
def readNumber (negative : Bool) (s : List Char) : Except Fault (Option Nat × List Char) :=
  match s with
  | [] => .error .ended
  | c :: rest =>
    if c = '0' then
      if startsWithDigit rest then .error .malformed else numberTail negative 0 0 rest
    else if isAsciiDigit c then
      let (significand, _, after) := absorbDigits (digitValue c) rest
      let (dropped, after) := spanDigits after
      numberTail negative significand dropped.length after
    else .error .malformed

/-! ## Passing over -/

/-- Passes over an exponent from behind its letter. -/
def skipExponent (s : List Char) : Except Fault (List Char) :=
  let s :=
    match s with
    | '+' :: rest => rest
    | '-' :: rest => rest
    | other => other
  if startsWithDigit s then .ok (spanDigits s).2 else .error .malformed

/-- Passes over what may follow the digits of a whole part or a fraction. -/
def skipExponentPart (s : List Char) : Except Fault (List Char) :=
  match s with
  | 'e' :: rest => skipExponent rest
  | 'E' :: rest => skipExponent rest
  | other => .ok other

/-- Passes over what follows the whole part of a number. -/
def skipNumberTail (s : List Char) : Except Fault (List Char) :=
  match s with
  | '.' :: rest =>
    if startsWithDigit rest then skipExponentPart (spanDigits rest).2 else .error .malformed
  | other => skipExponentPart other

/-- Passes over a number from behind its sign. -/
def skipNumber (s : List Char) : Except Fault (List Char) :=
  match s with
  | [] => .error .malformed
  | c :: rest =>
    if c = '0' then
      if startsWithDigit rest then .error .malformed else skipNumberTail rest
    else if isAsciiDigit c then skipNumberTail (spanDigits rest).2
    else .error .malformed

end DepartureRules.Json
