import Companion.Text.Plain

/-!
# Text — texts quoted in messages

A text in a message stands between double quotes.  Quotes and backslashes are escaped, the usual
controls by a letter, and any other character that is not plain by its code point.
-/

namespace Companion.Text

/-- A code point in hexadecimal, without leading zeros. -/
def codePoint (c : Char) : String := String.ofList (Nat.toDigits 16 c.toNat)

/-- A character as it stands between quotes. -/
def quotedChar (c : Char) : String :=
  match c with
  | '"' => "\\\""
  | '\\' => "\\\\"
  | '\n' => "\\n"
  | '\r' => "\\r"
  | '\t' => "\\t"
  | '\x00' => "\\0"
  | c => if isPlain c then c.toString else "\\u\x7b" ++ codePoint c ++ "\x7d"

/-- A text between quotes. -/
def quoted (s : String) : String := "\"" ++ String.join (s.toList.map quotedChar) ++ "\""

end Companion.Text
