import Companion.Yaml.Node

/-!
# Yaml — documents

In a document every reference leads to a node.  An anchor is numbered when its node begins, by the
number of different anchors before it, and a reference takes the number that its anchor has at that
point.  It leads to the last node of that number, which may be one that begins later, or one around
it.
-/

namespace Companion.Yaml

/-- A node of a document. -/
inductive Value where
  /-- A scalar. -/
  | scalar (s : Scalar)
  /-- A list. -/
  | list (tag : Option String) (items : List Value)
  /-- A mapping. -/
  | mapping (tag : Option String) (members : List (Value × Value))
  /-- A reference to the node of a number. -/
  | link (number : Nat)
  /-- No node, where there is no document. -/
  | nothing
  deriving Inhabited

/-- Nodes by their numbers. -/
abbrev Anchors := List (Nat × Value)

/-- A document. -/
structure Document where
  /-- The outermost node. -/
  root : Value
  /-- The nodes with anchors. -/
  anchors : Anchors

/-- The anchors that have been met. -/
structure Links where
  /-- The numbers of the anchors. -/
  numbers : List (String × Nat) := []
  /-- The nodes that are complete. -/
  nodes : Anchors := []

/-- Numbers an anchor; a node of this number does not count any more. -/
def Links.enter (l : Links) : Option String → Option Nat × Links
  | none => (none, l)
  | some name =>
    let number := l.numbers.length
    let others := l.numbers.filter (·.1 != name)
    (some number, ⟨(name, number) :: others, l.nodes.filter (·.1 != number)⟩)

/-- Completes the node of a number, unless one that began later has the number. -/
def Links.complete (l : Links) (v : Value) : Option Nat → Links
  | none => l
  | some number =>
    if (l.nodes.lookup number).isSome then l else { l with nodes := (number, v) :: l.nodes }

mutual

/-- Replaces the names of anchors by numbers; each name must be known. -/
def Node.link? (l : Links) : Node → Option (Value × Links)
  | .alias name => (l.numbers.lookup name).map fun n => (.link n, l)
  | .scalar anchor s =>
    let (number, l) := l.enter anchor
    some (.scalar s, l.complete (.scalar s) number)
  | .list anchor tag items =>
    let (number, l) := l.enter anchor
    match linkAll? l items with
    | none => none
    | some (vs, l) => some (.list tag vs, l.complete (.list tag vs) number)
  | .mapping anchor tag members =>
    let (number, l) := l.enter anchor
    match linkMembers? l members with
    | none => none
    | some (ms, l) => some (.mapping tag ms, l.complete (.mapping tag ms) number)

/-- Replaces the names of anchors in several nodes. -/
def linkAll? (l : Links) : List Node → Option (List Value × Links)
  | [] => some ([], l)
  | n :: ns =>
    match n.link? l with
    | none => none
    | some (v, l) => (linkAll? l ns).map fun (vs, l) => (v :: vs, l)

/-- Replaces the names of anchors in members. -/
def linkMembers? (l : Links) : List (Node × Node) → Option (List (Value × Value) × Links)
  | [] => some ([], l)
  | (k, n) :: ms =>
    match k.link? l with
    | none => none
    | some (key, l) =>
      match n.link? l with
      | none => none
      | some (v, l) => (linkMembers? l ms).map fun (vs, l) => ((key, v) :: vs, l)

end

/-- The only document of a text; none if the text is not well formed or has several. -/
def Document.ofText? (text : String) : Option Document :=
  match Node.ofText? text with
  | none => none
  | some none => some ⟨.nothing, []⟩
  | some (some node) => (node.link? {}).map fun (v, l) => ⟨v, l.nodes⟩

end Companion.Yaml
