import SecondaryIndex.Text.Hex
import SecondaryIndex.Text.Unprintable

namespace SecondaryIndex.Text

/-!
# Quoted text

Names and patterns stand in messages between double quotes.  A quote and a
backslash get a backslash; tab, line feed, carriage return and NUL have short
escapes; any other character without a visible form is written by its code
point.
-/

/-- A character as it stands between quotes. -/
def quoteChar
    (char : Char) :
    String :=
  if char = '"' then
    "\\\""
  else if char = '\\' then
    "\\\\"
  else if char = '\t' then
    "\\t"
  else if char = '\n' then
    "\\n"
  else if char = '\r' then
    "\\r"
  else if char = '\x00' then
    "\\0"
  else if isPrintable char then
    char.toString
  else
    "\\u\x7b" ++ Hex.ofNat char.toNat ++ "\x7d"

/-- A text between double quotes. -/
def quote
    (text : String) :
    String :=
  "\"" ++ String.join (text.toList.map quoteChar) ++ "\""

end SecondaryIndex.Text
