import Companion.Candidate
import Companion.Text.Hex

/-!
# Scope — the namespace a companion is placed in

A class in a namespace has its companion in that namespace.  A class in the global namespace has
none to be told apart by, so a *token* is drawn for it, and the companion is placed in the namespace
`Global_` followed by the token.

* `TokenSource` is a stream of tokens and the number of tokens drawn so far.
* `TokenSource.sequential` counts, in 32 hexadecimal digits; the count is a 64-bit word.
* `TokenSource.random` draws from a stream of random tokens, which comes from outside.
* `Scope.ofCandidate` draws a token exactly when the class is global.
-/

namespace Companion

/-- How tokens are made. -/
inductive TokenPolicy where
  /-- A fresh random token each time. -/
  | random
  /-- A counter, so that runs can be repeated. -/
  | sequential
  deriving DecidableEq, Repr, Inhabited

namespace TokenPolicy

/-- Every policy. -/
def all : List TokenPolicy := [.random, .sequential]

/-- The name in settings. -/
def name : TokenPolicy → String
  | .random => "random"
  | .sequential => "sequential"

end TokenPolicy

/-- A stream of tokens, some of which are drawn. -/
structure TokenSource where
  /-- The `i`-th token. -/
  token : Nat → String
  /-- How many tokens are drawn. -/
  drawn : Nat := 0

namespace TokenSource

/-- The next token. -/
def draw (t : TokenSource) : String × TokenSource :=
  (t.token t.drawn, { t with drawn := t.drawn + 1 })

/-- Counts from zero, in 64 bits. -/
def sequential : TokenSource := ⟨fun i => Text.hex 32 (i % UInt64.size), 0⟩

/-- The tokens of a random stream, none of which is drawn. -/
def random (stream : Nat → String) : TokenSource := ⟨stream, 0⟩

/-- The given tokens, over and over. -/
def cycle (tokens : List String) : TokenSource := ⟨fun i => tokens.getD (i % tokens.length) "", 0⟩

end TokenSource

/-- The source of a policy, given what random tokens there would be. -/
def TokenPolicy.source (stream : Nat → String) : TokenPolicy → TokenSource
  | .random => .random stream
  | .sequential => .sequential

/-- The namespace that a companion is placed in. -/
inductive Scope where
  /-- The class's own namespace. -/
  | own (text : String)
  /-- A namespace made up for a class in the global one. -/
  | global (text : String)
  deriving DecidableEq, Repr

namespace Scope

/-- What a made-up namespace begins with. -/
def globalMark : String := "Global_"

/-- The namespace's text. -/
def text : Scope → String
  | .own text => text
  | .global text => text

/-- Whether the namespace is made up. -/
def isGlobal : Scope → Bool
  | .own _ => false
  | .global _ => true

/-- The candidate's scope; a token is drawn for a global class. -/
def ofCandidate (c : Candidate) (tokens : TokenSource) : Scope × TokenSource :=
  if c.isGlobal then
    let (token, rest) := tokens.draw
    (.global (globalMark ++ token), rest)
  else (.own c.namespace, tokens)

end Scope

end Companion
