import Companion.Json.Token

/-!
# Json — documents

The value of a text is put together token by token.  What is open at any moment is a stack of
frames, the innermost first; a finished value goes into the innermost frame.  Where the text stops
being JSON, `broken` goes into it, and all frames are closed.

* `read` gives the value of a text, and says whether nothing follows it.
-/

namespace Companion.Json

/-- A list or an object that is not closed yet; what it holds so far stands latest first. -/
inductive Frame where
  /-- A list. -/
  | array (items : List Json)
  /-- An object, and the name whose value comes next. -/
  | object (members : List (Option String × Json)) (name : Option String)

/-- What may come next. -/
inductive Turn where
  /-- A value. -/
  | value
  /-- A value, or the end of the list. -/
  | firstItem
  /-- A name, or the end of the object. -/
  | firstName
  /-- A name. -/
  | name
  /-- A colon. -/
  | colon
  /-- A comma, or the end of the list or the object. -/
  | separator
  deriving DecidableEq, Repr

/-- How far a text has been read. -/
inductive Progress where
  /-- Within a value. -/
  | within (turn : Turn) (frames : List Frame)
  /-- At the end of the value; nothing has come after it, or something has. -/
  | done (value : Json) (complete : Bool)

/-- How many lists and objects may stand around another. -/
def depthLimit : Nat := 127

/-- A list or an object that has the frames around it. -/
def enclosed (frames : List Frame) (j : Json) : Json :=
  if depthLimit ≤ frames.length then .deep j else j

/-- Puts a finished value into the innermost frame. -/
def settle (j : Json) : List Frame → Progress
  | [] => .done j true
  | .array items :: frames => .within .separator (.array (j :: items) :: frames)
  | .object members name :: frames =>
    .within .separator (.object ((name, j) :: members) none :: frames)

/-- Closes all frames around a value. -/
def collapse : Json → List Frame → Json
  | j, [] => j
  | j, .array items :: frames => collapse (.array (j :: items).reverse) frames
  | j, .object members name :: frames =>
    collapse (.object ((name, j) :: members).reverse) frames

/-- The text is not JSON from here on. -/
def stop (frames : List Frame) : Progress := .done (collapse .broken frames) false

/-- A value where one may stand. -/
def Turn.takesValue : Turn → Bool
  | .value => true
  | .firstItem => true
  | _ => false

/-- Reads one token. -/
def step : Progress → Token → Progress
  | .done j _, _ => .done j false
  | .within turn frames, token =>
    match token, turn, frames with
    | .openArray, turn, fs =>
      if turn.takesValue then .within .firstItem (.array [] :: fs) else stop fs
    | .openObject, turn, fs =>
      if turn.takesValue then .within .firstName (.object [] none :: fs) else stop fs
    | .scalar j, turn, fs => if turn.takesValue then settle j fs else stop fs
    | .string s, .firstName, .object ms _ :: fs => .within .colon (.object ms s :: fs)
    | .string s, .name, .object ms _ :: fs => .within .colon (.object ms s :: fs)
    | .string s, turn, fs => if turn.takesValue then settle (.string s) fs else stop fs
    | .closeArray, .firstItem, .array _ :: fs => settle (enclosed fs (.array [])) fs
    | .closeArray, .separator, .array items :: fs => settle (enclosed fs (.array items.reverse)) fs
    | .closeObject, .firstName, .object _ _ :: fs => settle (enclosed fs (.object [])) fs
    | .closeObject, .separator, .object ms _ :: fs => settle (enclosed fs (.object ms.reverse)) fs
    | .comma, .separator, .array items :: fs => .within .value (.array items :: fs)
    | .comma, .separator, .object ms _ :: fs => .within .name (.object ms none :: fs)
    | .colon, .colon, fs => .within .value fs
    | _, _, fs => stop fs

/-- A value, and whether the text ends with it. -/
structure Document where
  /-- The value. -/
  value : Json
  /-- Nothing but blanks follows. -/
  complete : Bool

/-- The document that has been read when the text ends. -/
def Progress.document : Progress → Document
  | .done j complete => ⟨j, complete⟩
  | .within _ frames => ⟨collapse .broken frames, false⟩

/-- The document of a text. -/
def read (text : String) : Document :=
  ((tokens text.toList).foldl step (.within .value [])).document

end Companion.Json
