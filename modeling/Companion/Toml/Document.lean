import Companion.Toml.Number
import Companion.Toml.Table
import Companion.Toml.Text

/-!
# Toml — documents

A document is a sequence of lines: blank ones, assignments of values to keys, and headers, which say
to what table the keys after them belong.  Keys are bare or quoted names with dots between them.
Lists and inline tables nest less than eighty deep.

* `read?` gives the values of a text, name by name.
-/

namespace Companion.Toml

open Text Parser

/-- How deep lists and inline tables may nest, and how many names a key may have. -/
def depthLimit : Nat := 79

/-- Whether the character may stand in a bare name. -/
def isBare (c : Char) : Bool := c.isAlphanum || c == '_' || c == '-'

/-- A name. -/
def name : Parser String := do
  match ← peek? with
  | some '"' => lineString
  | some '\'' => lineString
  | _ => return String.ofList (← many1 isBare)

/-- Names with dots between them, of at most so many. -/
def names : Nat → Parser (List String)
  | 0 => failure
  | n + 1 => do
    blanks
    let first ← name
    blanks
    match ← optional? (exactly ['.']) with
    | some () => return first :: (← names n)
    | none => return [first]

/-- A key: the names on the way, and the last one. -/
def key : Parser (List String × String) := do
  let all ← names depthLimit
  match all.getLast? with
  | some last => return (all.dropLast, last)
  | none => failure

/-- A value that holds no others. -/
def scalar : Parser SettingValue := do
  match ← peek? with
  | some '"' => return .text (← string)
  | some '\'' => return .text (← string)
  | some 't' => do exactly "true".toList; return .flag true
  | some 'f' => do exactly "false".toList; return .flag false
  | _ =>
    (do return .text (← moment)) <|> (do return .real (← real)) <|> (do return .whole (← whole))

mutual

/-- A value, in at most so many steps and so many levels. -/
def value (depth : Nat) : Nat → Parser SettingValue
  | 0 => failure
  | n + 1 => do
    match ← peek? with
    | some '[' =>
      let _ ← next
      ensure (0 < depth)
      return .list (← items (depth - 1) n)
    | some '\x7b' =>
      let _ ← next
      ensure (0 < depth)
      blanks
      match ← optional? (exactly ['\x7d']) with
      | some () => return .table []
      | none => return .table (entriesToValues (← members (depth - 1) n []))
    | _ => scalar

/-- The rest of a list. -/
def items (depth : Nat) : Nat → Parser (List SettingValue)
  | 0 => failure
  | n + 1 => do
    gap (n + 1)
    match ← optional? (exactly [']']) with
    | some () => return []
    | none =>
      let v ← value depth n
      gap (n + 1)
      match ← next with
      | ']' => return [v]
      | ',' => return v :: (← items depth n)
      | _ => failure

/-- The rest of an inline table that holds some entries already. -/
def members (depth : Nat) : Nat → Entries → Parser Entries
  | 0, _ => failure
  | n + 1, es => do
    let (path, last) ← key
    exactly ['=']
    blanks
    let v ← value depth n
    blanks
    match es.assign path last v with
    | none => failure
    | some es =>
      match ← next with
      | '\x7d' => return es
      | ',' => members depth n es
      | _ => failure

end

/-- A document as far as it has been read. -/
structure Draft where
  /-- The values so far. -/
  entries : Entries := []
  /-- The table that keys belong to. -/
  header : List String := []

/-- A header, with one bracket on each side or two. -/
def heading (d : Draft) : Parser Draft := do
  exactly ['[']
  let next? ← optional? (exactly ['['])
  let (path, last) ← key
  exactly [']']
  if next?.isSome then exactly [']']
  let opened :=
    if next?.isSome then Entries.openNext last else Entries.openTable last
  match d.entries.within opened path with
  | some entries => return ⟨entries, path ++ [last]⟩
  | none => failure

/-- An assignment. -/
def assignment (d : Draft) : Parser Draft := do
  let (path, last) ← key
  exactly ['=']
  blanks
  let v ← value depthLimit (← rest).length
  match d.entries.within (Entries.assign path last v) d.header with
  | some entries => return { d with entries }
  | none => failure

/-- A line, except its end. -/
def line (d : Draft) : Parser Draft := do
  blanks
  match ← peek? with
  | some '[' => heading d
  | none => return d
  | some c =>
    if c == '#' || c == '\n' || c == '\r' then return d
    else assignment d

/-- Lines up to the end of the text, at most so many. -/
def document (d : Draft) : Nat → Parser Draft
  | 0 => return d
  | n + 1 => do
    if (← rest).isEmpty then return d
    let d ← line d
    restOfLine
    document d n

/-- The values of a text, by name; none if it is not well formed. -/
def read? (text : String) : Option (List (String × SettingValue)) :=
  let cs := text.toList
  ((document {} cs.length).runAll? cs).map fun d => entriesToValues d.entries

end Companion.Toml
