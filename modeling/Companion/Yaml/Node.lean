import Companion.Yaml.Tokens

/-!
# Yaml — nodes

The tokens of a document are put together to nodes: scalars, lists, mappings and references, the
first three with an anchor and a tag if they have one.  A node that is left out where one is needed
is an empty plain scalar.

* `Document.ofText?` gives the only document of a text; a text without any has no root.
-/

namespace Companion.Yaml

/-- A scalar. -/
structure Scalar where
  /-- The text. -/
  text : String
  /-- How it is written. -/
  style : ScalarStyle
  /-- The tag, in full. -/
  tag : Option String := none
  deriving DecidableEq, Repr

/-- A node as it is written. -/
inductive Node where
  /-- A scalar. -/
  | scalar (anchor : Option String) (s : Scalar)
  /-- A list. -/
  | list (anchor tag : Option String) (items : List Node)
  /-- A mapping. -/
  | mapping (anchor tag : Option String) (members : List (Node × Node))
  /-- A reference to an anchor. -/
  | alias (name : String)
  deriving Inhabited

/-- What tag handles stand for. -/
abbrev Handles := List (String × String)

namespace Node

/-- A node that is left out. -/
def empty : Node := .scalar none ⟨"", .plain, none⟩

/-- A parser of tokens. -/
abbrev Reader (α : Type) := StateT (List Token) Option α

/-- The next token, which stays. -/
def peek : Reader (Option Token) := return (← get).head?

/-- Takes the next token. -/
def take : Reader Unit := modify (·.drop 1)

/-- Takes the next token if it is the given one. -/
def takes (t : Token) : Reader Bool := do
  if (← peek) == some t then
    take
    return true
  else return false

/-- Takes the next token, which must be the given one. -/
def expect (t : Token) : Reader Unit := do
  if !(← takes t) then failure

/-- Whether the next token is one of those given, or the tokens have ended. -/
def endsWith (ts : List Token) : Reader Bool := return (← peek).all ts.contains

/-- An anchor and a tag. -/
structure Properties where
  /-- The anchor. -/
  anchor : Option String := none
  /-- The tag, in full. -/
  tag : Option String := none

/-- A tag in full; its handle must be known. -/
def fullTag? (handles : Handles) (handle suffix : String) : Option String :=
  if handle.isEmpty then some suffix else (handles.lookup handle).map (· ++ suffix)

/-- Reads a tag in full, if there is one. -/
def readTag? (handles : Handles) : Reader (Option String) := do
  match ← peek with
  | some (.tag handle suffix) =>
    take
    match fullTag? handles handle suffix with
    | some tag => return some tag
    | none => failure
  | _ => return none

/-- Reads an anchor, if there is one. -/
def readAnchor? : Reader (Option String) := do
  match ← peek with
  | some (.anchor name) =>
    take
    return some name
  | _ => return none

/-- Reads an anchor and a tag, in either order. -/
def readProperties (handles : Handles) : Reader Properties := do
  match ← readAnchor? with
  | some anchor => return ⟨some anchor, ← readTag? handles⟩
  | none =>
    let tag ← readTag? handles
    return ⟨← readAnchor?, tag⟩

/-- The tag of a scalar: a lone exclamation mark is none. -/
def scalarTag : Option String → Option String
  | some "!" => none
  | tag => tag

mutual

/-- Reads a node, in so many steps at most.  Blocks may be nodes only outside of flow collections,
and a list without indentation only as a member of a mapping. -/
def read (handles : Handles) (block bare : Bool) : Nat → Reader Node
  | 0 => failure
  | n + 1 => do
    match ← peek with
    | some (.alias name) =>
      take
      return .alias name
    | _ =>
      let p ← readProperties handles
      match ← peek with
      | some (.scalar text style) =>
        take
        return .scalar p.anchor ⟨text, style, scalarTag p.tag⟩
      | some .openList =>
        take
        return .list p.anchor p.tag (← flowItems handles true n)
      | some .openMapping =>
        take
        return .mapping p.anchor p.tag (← flowMembers handles true n)
      | some .listStart =>
        if block then
          take
          return .list p.anchor p.tag (← blockItems handles n)
        else absent p
      | some .mappingStart =>
        if block then
          take
          return .mapping p.anchor p.tag (← blockMembers handles n)
        else absent p
      | some .item =>
        if bare then return .list p.anchor p.tag (← bareItems handles n) else absent p
      | _ => absent p

/-- A node of which only an anchor or a tag is there. -/
def absent (p : Properties) : Reader Node :=
  if p.anchor.isSome || p.tag.isSome then return .scalar p.anchor ⟨"", .plain, scalarTag p.tag⟩
  else failure

/-- Reads the items of a block list. -/
def blockItems (handles : Handles) : Nat → Reader (List Node)
  | 0 => failure
  | n + 1 => do
    if ← takes .blockEnd then return []
    expect .item
    let node ←
      if ← endsWith [.item, .blockEnd] then pure empty else read handles true false n
    return node :: (← blockItems handles n)

/-- Reads the items of a list without indentation. -/
def bareItems (handles : Handles) : Nat → Reader (List Node)
  | 0 => failure
  | n + 1 => do
    if ← takes .item then
      let node ←
        if ← endsWith [.item, .key, .value, .blockEnd] then pure empty
        else read handles true false n
      return node :: (← bareItems handles n)
    else return []

/-- Reads a key or a value of a block mapping, after its mark. -/
def blockPart (handles : Handles) : Nat → Reader Node
  | 0 => failure
  | n + 1 => do
    if ← endsWith [.key, .value, .blockEnd] then return empty else read handles true true n

/-- Reads the members of a block mapping. -/
def blockMembers (handles : Handles) : Nat → Reader (List (Node × Node))
  | 0 => failure
  | n + 1 => do
    if ← takes .blockEnd then return []
    expect .key
    let key ← blockPart handles n
    let value ← if ← takes .value then blockPart handles n else pure empty
    return (key, value) :: (← blockMembers handles n)

/-- Reads a value of a flow collection, if its mark comes next. -/
def flowValue (handles : Handles) (close : Token) : Nat → Reader Node
  | 0 => failure
  | n + 1 => do
    if ← takes .value then
      if ← endsWith [.comma, close] then return empty else read handles false false n
    else return empty

/-- Reads the items of a flow list. -/
def flowItems (handles : Handles) (first : Bool) : Nat → Reader (List Node)
  | 0 => failure
  | n + 1 => do
    if ← takes .closeList then return []
    if !first then expect .comma
    if ← takes .closeList then return []
    let node ←
      if ← takes .key then do pure (.mapping none none [← flowPair handles n])
      else read handles false false n
    return node :: (← flowItems handles false n)

/-- Reads a single member that stands as an item of a flow list.  If its key is left out, the mark
of its value does not count. -/
def flowPair (handles : Handles) : Nat → Reader (Node × Node)
  | 0 => failure
  | n + 1 => do
    let key ←
      if ← endsWith [.value, .comma, .closeList] then do
        take
        pure empty
      else read handles false false n
    return (key, ← flowValue handles .closeList n)

/-- Reads the members of a flow mapping. -/
def flowMembers (handles : Handles) (first : Bool) : Nat → Reader (List (Node × Node))
  | 0 => failure
  | n + 1 => do
    if ← takes .closeMapping then return []
    if !first then expect .comma
    if ← takes .closeMapping then return []
    if ← takes .key then
      let key ←
        if ← endsWith [.value, .comma, .closeMapping] then pure empty
        else read handles false false n
      let value ← flowValue handles .closeMapping n
      return (key, value) :: (← flowMembers handles false n)
    else
      let key ← read handles false false n
      return (key, empty) :: (← flowMembers handles false n)

end

/-! ### Documents -/

/-- The handles that are always known. -/
def standardHandles : Handles := [("!", "!"), ("!!", "tag:yaml.org,2002:")]

/-- Reads directives, so many at most; a handle may be given once, and so may the version, which
must be 1.1 or 1.2. -/
def readDirectives : Nat → Bool → Handles → Reader Handles
  | 0, _, handles => pure handles
  | n + 1, versioned, handles => do
    match ← peek with
    | some (.version major minor) =>
      if versioned || major != 1 || (minor != 1 && minor != 2) then failure
      take
      readDirectives n true handles
    | some (.handle name meaning) =>
      if (handles.lookup name).isSome then failure
      take
      readDirectives n versioned ((name, meaning) :: handles)
    | _ => return handles

/-- Whether the next token starts a document or says something about it. -/
def atDocument : Reader Bool := do
  match ← peek with
  | some (.version _ _) => return true
  | some (.handle _ _) => return true
  | some .documentStart => return true
  | _ => return false

/-- Reads the root of a document. -/
def readRoot (size : Nat) : Reader Node := do
  if ← atDocument then
    let handles ← readDirectives size false []
    expect .documentStart
    if (← atDocument) || (← endsWith [.documentEnd]) then return empty
    else read (handles ++ standardHandles) true false size
  else read standardHandles true false size

/-- Reads the only document; none if there is no document at all. -/
def readOnly (size : Nat) : Reader (Option Node) := do
  if (← get).isEmpty then return none
  else
    let root ← readRoot size
    modify fun ts => ts.dropWhile (· == .documentEnd)
    if (← get).isEmpty then return some root else failure

/-- The root of the only document of a text: none if the text is not well formed, and `some none` if
it has no document. -/
def ofText? (text : String) : Option (Option Node) :=
  match tokens? text with
  | none => none
  | some ts => ((readOnly (4 * ts.length + 4)).run ts).map (·.1)

end Node

end Companion.Yaml
