import Companion.Text.Hex
import Companion.Yaml.Scanner

/-!
# Yaml — names, tags and directives

An anchor and a reference to it are a name of letters, digits, hyphens and underscores.  A tag is a
handle and what follows it, or stands in angle brackets as it is.  Bytes that may not stand in a tag
are given by number.  A directive fills a line of its own.
-/

namespace Companion.Yaml

namespace Scanner

/-- Reads letters, digits, hyphens and underscores. -/
def readWord : Scanner String := readWhile (·.any isWord)

/-- Reads the name of an anchor; a space or a mark must follow it. -/
def readName : Scanner String := do
  skip
  let name ← readWord
  ensure !name.isEmpty
  let c ← peek
  ensure (isSpace c || c.any ['?', ':', ',', ']', '\x7d', '%', '@', '\x60'].contains)
  return name

/-! ### Tags -/

/-- The characters, besides letters, digits, hyphens and underscores, that may stand in a tag. -/
def tagMarks : List Char :=
  [';', '/', '?', ':', '@', '&', '=', '+', '$', '.', '%', '!', '~', '*', '\'', '(', ')']

/-- Whether the character may stand in a tag; in angle brackets a few more may. -/
def isTagChar (bracketed : Bool) (c : Char) : Bool :=
  isWord c || tagMarks.contains c || (bracketed && [',', '[', ']'].contains c)

/-- Reads a byte that is given by number. -/
def readByte : Scanner UInt8 := do
  ensure (← at? '%')
  skip
  match (← peek).bind Text.hexValue?, (← ahead 1).bind Text.hexValue? with
  | some a, some b =>
    skipMany 2
    return UInt8.ofNat (16 * a + b)
  | _, _ => failure

/-- Reads so many bytes that are given by number. -/
def readBytes : Nat → Scanner (List UInt8)
  | 0 => pure []
  | n + 1 => do
    let b ← readByte
    return b :: (← readBytes n)

/-- The number of bytes of the character that begins with a byte. -/
def byteCount (b : UInt8) : Nat :=
  if b < 0x80 then 1
  else if b &&& 0xE0 == 0xC0 then 2
  else if b &&& 0xF0 == 0xE0 then 3
  else if b &&& 0xF8 == 0xF0 then 4
  else 0

/-- Reads a character whose bytes are given by number. -/
def readEncoded : Scanner String := do
  let b ← readByte
  ensure (byteCount b != 0)
  let others ← readBytes (byteCount b - 1)
  match String.fromUTF8? ⟨(b :: others).toArray⟩ with
  | some text => return text
  | none => failure

/-- Reads the characters of a tag. -/
def readTagChars (bracketed : Bool) : Scanner String :=
  gather fun text => do
    match ← peek with
    | some c =>
      if !isTagChar bracketed c then return (text, false)
      else if c == '%' then return (text ++ (← readEncoded), true)
      else return (text ++ (← read), true)
    | none => return (text, false)

/-- Reads a handle: an exclamation mark, and letters up to another one, if there is one. -/
def readHandle : Scanner String := do
  ensure (← at? '!')
  skip
  let word ← readWord
  if ← at? '!' then
    skip
    return "!" ++ word ++ "!"
  else return "!" ++ word

/-- Reads a tag: its handle, and what follows it. -/
def readTag : Scanner Token := do
  let tag ←
    if (← ahead 1) == some '<' then do
      skipMany 2
      let text ← readTagChars true
      ensure (!text.isEmpty && (← at? '>'))
      skip
      pure (Token.tag "" text)
    else do
      let handle ← readHandle
      if handle.length ≥ 2 && handle.endsWith "!" then do
        let text ← readTagChars false
        ensure !text.isEmpty
        pure (Token.tag handle text)
      else do
        let text := String.ofList (handle.toList.drop 1) ++ (← readTagChars false)
        pure (if text.isEmpty then .tag "" "!" else .tag "!" text)
  let c ← peek
  ensure (isSpace c || ((← get).flow != 0 && c == some ','))
  return tag

/-! ### Directives -/

/-- Reads a number of nine digits at most. -/
def readNumber : Scanner Nat := do
  let ds ← readWhile (·.any Char.isDigit)
  ensure (!ds.isEmpty && ds.length ≤ 9)
  return ds.foldl (fun n c => 10 * n + (c.toNat - '0'.toNat)) 0

/-- Reads what a directive says. -/
def readDirectiveBody (name : String) : Scanner Token := do
  skipBlanks
  if name == "YAML" then
    let major ← readNumber
    ensure (← at? '.')
    skip
    return .version major (← readNumber)
  else if name == "TAG" then
    let handle ← readHandle
    ensure (handle == "!" || (handle.length ≥ 2 && handle.endsWith "!"))
    ensure (isBlank (← peek))
    skipBlanks
    let meaning ← readTagChars true
    ensure (!meaning.isEmpty && isSpace (← peek))
    return .handle handle meaning
  else failure

/-- Reads a directive and the rest of its line. -/
def readDirective : Scanner Token := do
  skip
  let name ← readWord
  ensure (!name.isEmpty && isSpace (← peek))
  let token ← readDirectiveBody name
  skipBlanks
  skipComment
  ensure (isBreakOrEnd (← peek))
  skipLine
  return token

end Scanner

end Companion.Yaml
