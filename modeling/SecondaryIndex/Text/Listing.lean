import SecondaryIndex.Bytes
import SecondaryIndex.Text.Hex

namespace SecondaryIndex.Text

/-!
# Keys in text

Error messages list the bytes of a key in decimal.  Log lines write a key as
text: printable ASCII as it is and every other byte as an escape.
-/

/-- Items between square brackets. -/
def listing
    (items : List String) :
    String :=
  "[" ++ ", ".intercalate items ++ "]"

/-- The bytes of a key in decimal. -/
def listBytes
    (bytes : Bytes) :
    String :=
  listing (bytes.map fun byte => toString byte.toNat)

/-- A byte as it stands in a log line. -/
def escapeByte
    (byte : UInt8) :
    String :=
  if byte = 0x09 then
    "\\t"
  else if byte = 0x0A then
    "\\n"
  else if byte = 0x0D then
    "\\r"
  else if byte = 0x22 then
    "\\\""
  else if byte = 0x27 then
    "\\'"
  else if byte = 0x5C then
    "\\\\"
  else if 0x20 ≤ byte ∧ byte ≤ 0x7E then
    (Char.ofNat byte.toNat).toString
  else
    "\\x" ++ String.ofList (Hex.ofByte byte)

/-- A key as it stands in a log line. -/
def escapeBytes
    (bytes : Bytes) :
    String :=
  String.join (bytes.map escapeByte)

end SecondaryIndex.Text
