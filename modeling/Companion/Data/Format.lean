import Companion.Data.Problem

/-!
# Data — reading values from a format

A *format* is a kind of document, such as JSON, seen through its nodes.  It says how a text, a truth
value, a list, a choice or a record is read from a node.  What a record is made of is described
once, by its fields, and serves every format.

* A `Record` reads all its fields; if several fail, the one that stands first in the document
  counts.
* A field is required, or optional, or has a default.
* `Format.record` and `DataFormat.tagged` leave to the format which nodes are records at all.
-/

namespace Companion

/-- What reading comes to: a value, or the first problem. -/
abbrev Reading (α : Type) := Except Problem α

/-- A problem, and its place among the members of a record. -/
structure Fault where
  /-- The number of the member, counted from the front. -/
  place : Nat
  /-- The problem. -/
  problem : Problem

/-- Of two problems the one that comes first; of two at one place the first given. -/
def Fault.first (a b : Fault) : Fault := if b.place < a.place then b else a

/-- Where the fields of a record are found. -/
structure Fields (ν : Type) where
  /-- The place and the node of a field. -/
  get? : String → Option (Nat × ν)
  /-- What it means that a required field is not there. -/
  missing : String → Fault
  /-- Whether fields go by name, so that an optional one may be left out. -/
  byName : Bool

/-- A record, as a reader of its fields. -/
structure Record (ν α : Type) where
  /-- The names of the fields, in order. -/
  names : List String
  /-- Reads all fields. -/
  read : Fields ν → Except Fault α

namespace Record

variable {ν α β : Type}

/-- The node of a field, read, with the place of what is wrong. -/
def readAt (read : ν → Reading α) (field : Nat × ν) : Except Fault α :=
  match read field.2 with
  | .ok a => .ok a
  | .error problem => .error ⟨field.1, problem⟩

/-- A field that has to be there. -/
def required (name : String) (read : ν → Reading α) : Record ν α where
  names := [name]
  read fields :=
    match fields.get? name with
    | some node => readAt read node
    | none => .error (fields.missing name)

/-- A field that has a default. -/
def defaulted (name : String) (read : ν → Reading α) (default : α) : Record ν α where
  names := [name]
  read fields :=
    match fields.get? name with
    | some node => readAt read node
    | none => .ok default

/-- A field that may be left out if fields go by name. -/
def optional (name : String) (read : ν → Reading (Option α)) : Record ν (Option α) where
  names := [name]
  read fields :=
    match fields.get? name with
    | some node => readAt read node
    | none => if fields.byName then .ok none else .error (fields.missing name)

/-- A record without fields. -/
def pure (a : α) : Record ν α := ⟨[], fun _ => .ok a⟩

/-- The fields of two records together. -/
def both (f : Record ν (α → β)) (x : Record ν α) : Record ν β where
  names := f.names ++ x.names
  read fields :=
    match f.read fields, x.read fields with
    | .ok g, .ok a => .ok (g a)
    | .ok _, .error e => .error e
    | .error e, .ok _ => .error e
    | .error d, .error e => .error (d.first e)

instance : Applicative (Record ν) where
  pure := pure
  seq f x := both f (x ())

end Record

/-- An alternative of a value that is told apart by a tag. -/
inductive Alternative (α : Type) where
  /-- It holds nothing. -/
  | bare (label : String) (value : α)
  /-- It holds a text. -/
  | holding (make : String → α)

/-- A value that is one of several alternatives: a tag says which, and a content field holds what
the alternative holds. -/
structure Tagged (α : Type) where
  /-- The name of the value's type. -/
  name : String
  /-- The name of the tag field. -/
  tag : String
  /-- The name of the content field. -/
  content : String
  /-- The alternatives by their tags. -/
  alternatives : List (String × Alternative α)

/-- A kind of document, by how values are read from its nodes. -/
class Format (ν : Type) where
  /-- Reads a text. -/
  text : ν → Reading String
  /-- Reads a path. -/
  path : ν → Reading String
  /-- Reads a truth value. -/
  flag : ν → Reading Bool
  /-- Reads a value that may be null. -/
  optional {α : Type} : (ν → Reading α) → ν → Reading (Option α)
  /-- Reads one of several names. -/
  choice {α : Type} : List (String × α) → ν → Reading α
  /-- Reads a record of the given name. -/
  record {α : Type} : String → Record ν α → ν → Reading α

/-- A kind of document that also holds numbers, lists and tagged values. -/
class DataFormat (ν : Type) extends Format ν where
  /-- Reads a natural number below 2^64. -/
  natural : ν → Reading UInt64
  /-- Reads a list. -/
  list {α : Type} : (ν → Reading α) → ν → Reading (List α)
  /-- Reads one of several alternatives. -/
  tagged {α : Type} : Tagged α → ν → Reading α

end Companion
