import SecondaryIndex.Bytes

namespace SecondaryIndex.Text.Hex

/-!
# Hexadecimal text

A byte is written as two lower-case hexadecimal digits.  Reading accepts digits
of either case and needs an even number of them.
-/

/-- The lower-case digit of a number below sixteen. -/
def digit
    (value : Nat) :
    Char :=
  if value < 10 then
    Char.ofNat ('0'.toNat + value)
  else
    Char.ofNat ('a'.toNat + (value - 10))

/-- The value of a hexadecimal digit. -/
def digit?
    (char : Char) :
    Option Nat :=
  if '0' ≤ char ∧ char ≤ '9' then
    some (char.toNat - '0'.toNat)
  else if 'a' ≤ char ∧ char ≤ 'f' then
    some (char.toNat - 'a'.toNat + 10)
  else if 'A' ≤ char ∧ char ≤ 'F' then
    some (char.toNat - 'A'.toNat + 10)
  else
    none

/-- The two digits of a byte. -/
def ofByte
    (byte : UInt8) :
    List Char :=
  [digit (byte.toNat / 16), digit (byte.toNat % 16)]

/-- The digits of a byte string. -/
def encode
    (bytes : Bytes) :
    String :=
  String.ofList (bytes.flatMap ofByte)

/-- The bytes of a row of digits. -/
def decodeDigits :
    List Char → Option Bytes
  | [] =>
      some []
  | [_] =>
      none
  | first :: second :: rest => do
      let high ← digit? first
      let low ← digit? second
      let others ← decodeDigits rest
      return UInt8.ofNat (high * 16 + low) :: others

/-- The byte string that a text writes. -/
def decode
    (text : String) :
    Option Bytes :=
  decodeDigits text.toList

/-- The digits of a number, without leading zeros. -/
def ofNat
    (value : Nat) :
    String :=
  String.ofList (Nat.toDigits 16 value)

end SecondaryIndex.Text.Hex
