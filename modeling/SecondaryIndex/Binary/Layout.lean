import SecondaryIndex.Text.Utf8

namespace SecondaryIndex.Binary

/-!
# The binary layout of values

Numbers take a fixed number of bytes, least significant first.  A text and a
sequence begin with their length in eight bytes; an optional value begins with
one byte, zero for absent and one for present.  Reading takes what it needs
from the front of the input and ignores what follows.
-/

/-- Why bytes are no value of the layout. -/
inductive ReadError where
  | endOfInput
  | textBeyondInput
  | noText (fault : Text.Utf8.Fault)
  | optionTag (found : Nat)
  | truthTag (found : Nat)
  deriving Repr, DecidableEq

namespace ReadError

/-- The text of a reading error. -/
def message :
    ReadError → String
  | .endOfInput =>
      "io error: unexpected end of file"
  | .textBeyondInput =>
      "io error: "
  | .noText fault =>
      "string is not valid utf8: " ++ fault.message
  | .optionTag found =>
      s!"tag for enum is not valid, found {found}"
  | .truthTag found =>
      s!"invalid u8 while decoding bool, expected 0 or 1, found {found}"

end ReadError

/-- A reader takes a value from the front of the input or says what is wrong. -/
abbrev Reader (α : Type) :=
  StateT Bytes (Except ReadError) α

/-- The given number of bytes of a number, least significant first. -/
def littleEndian :
    Nat → Nat → Bytes
  | 0, _ =>
      []
  | width + 1, value =>
      UInt8.ofNat (value % 256) :: littleEndian width (value / 256)

/-- The number that bytes write, least significant first. -/
def ofLittleEndian :
    Bytes → Nat
  | [] =>
      0
  | byte :: rest =>
      byte.toNat + 256 * ofLittleEndian rest

/-- A truth value is the byte zero or one. -/
def writeTruth
    (value : Bool) :
    Bytes :=
  [if value then 1 else 0]

/-- A length or another number of eight bytes. -/
def writeNat64
    (value : Nat) :
    Bytes :=
  littleEndian 8 value

/-- An unsigned number of four bytes. -/
def writeWord32
    (value : UInt32) :
    Bytes :=
  littleEndian 4 value.toNat

/-- A signed number of eight bytes in two's complement. -/
def writeInt64
    (value : Int64) :
    Bytes :=
  littleEndian 8 value.toUInt64.toNat

/-- The number of items, then each item. -/
def writeSequence
    {α : Type}
    (writeItem : α → Bytes)
    (items : List α) :
    Bytes :=
  writeNat64 items.length ++ items.flatMap writeItem

/-- A byte string is a sequence of bytes. -/
def writeBytes
    (bytes : Bytes) :
    Bytes :=
  writeNat64 bytes.length ++ bytes

/-- A text is the sequence of its UTF-8 bytes. -/
def writeText
    (text : String) :
    Bytes :=
  writeBytes (Bytes.ofText text)

/-- An absent value is the byte zero; a present one follows the byte one. -/
def writeOption
    {α : Type}
    (writeValue : α → Bytes) :
    Option α → Bytes
  | none =>
      [0]
  | some value =>
      1 :: writeValue value

/-- Take one byte. -/
def readByte :
    Reader UInt8 :=
  fun
    | [] => .error .endOfInput
    | byte :: rest => .ok (byte, rest)

/-- Take a number of the given width. -/
def readFixed
    (width : Nat) :
    Reader Nat :=
  fun input =>
    if input.length < width then
      .error .endOfInput
    else
      .ok (ofLittleEndian (input.take width), input.drop width)

/-- Take a length or another number of eight bytes. -/
def readNat64 :
    Reader Nat :=
  readFixed 8

/-- Take an unsigned number of four bytes. -/
def readWord32 :
    Reader UInt32 := do
  return UInt32.ofNat (← readFixed 4)

/-- Take a signed number of eight bytes. -/
def readInt64 :
    Reader Int64 := do
  return (UInt64.ofNat (← readFixed 8)).toInt64

/-- Take a truth value. -/
def readTruth :
    Reader Bool := do
  let tag ← readByte
  if tag = 0 then
    return false
  else if tag = 1 then
    return true
  else
    throw (.truthTag tag.toNat)

/-- Take a number of items one after another. -/
def readItems
    {α : Type}
    (readItem : Reader α) :
    Nat → Reader (List α)
  | 0 =>
      return []
  | count + 1 => do
      let item ← readItem
      let rest ← readItems readItem count
      return item :: rest

/-- Take a sequence; an item that is missing ends the input too early. -/
def readSequence
    {α : Type}
    (readItem : Reader α) :
    Reader (List α) := do
  readItems readItem (← readNat64)

/-- Take a byte string. -/
def readBytes :
    Reader Bytes := do
  let length ← readNat64
  fun input =>
    if input.length < length then
      .error .endOfInput
    else
      .ok (input.take length, input.drop length)

/-- Take a text, whose bytes have to be there and to be UTF-8. -/
def readText :
    Reader String := do
  let length ← readNat64
  fun input =>
    if input.length < length then
      .error .textBeyondInput
    else
      match Text.Utf8.decode (input.take length) with
      | .ok text => .ok (text, input.drop length)
      | .error fault => .error (.noText fault)

/-- Take an optional value. -/
def readOption
    {α : Type}
    (readValue : Reader α) :
    Reader (Option α) := do
  let tag ← readByte
  if tag = 0 then
    return none
  else if tag = 1 then
    return some (← readValue)
  else
    throw (.optionTag tag.toNat)

/-- The value at the front of the input. -/
def Reader.read
    {α : Type}
    (reader : Reader α)
    (input : Bytes) :
    Except ReadError α :=
  (StateT.run reader input).map Prod.fst

end SecondaryIndex.Binary
