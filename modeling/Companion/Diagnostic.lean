import Companion.Declaration

/-!
# Diagnostic — what is reported to the host

A diagnostic is about one declaration or about a whole contract.  A warning leaves nothing out that
was asked for rightly; an error says that something was not generated.
-/

namespace Companion

/-- How bad it is. -/
inductive Severity where
  /-- Generation went on. -/
  | warning
  /-- Something was not generated. -/
  | error
  deriving DecidableEq, Repr, Inhabited

namespace Severity

/-- Every severity. -/
def all : List Severity := [.warning, .error]

/-- The name in data and in reports. -/
def name : Severity → String
  | .warning => "warning"
  | .error => "error"

end Severity

/-- The causes that have a number of their own. -/
inductive Code where
  /-- No annotation of the right name is attached. -/
  | annotationNotMatched
  /-- The element type is absent, null or blank. -/
  | missingElementType
  /-- The class cannot be continued. -/
  | notPartial
  /-- The annotation is attached to something that is not a class. -/
  | notAClass
  /-- A variant has no template. -/
  | missingTemplate
  deriving DecidableEq, Repr

/-- The number of the cause. -/
def Code.id : Code → String
  | .annotationNotMatched => "AC0001"
  | .missingElementType => "AC0002"
  | .notPartial => "AC0003"
  | .notAClass => "AC0004"
  | .missingTemplate => "AC0100"

/-- A report about a declaration or a contract. -/
structure Diagnostic where
  /-- The number of the cause. -/
  id : String
  /-- How bad it is. -/
  severity : Severity
  /-- The report in words. -/
  message : String
  /-- The declaration it is about, if it is about one. -/
  symbol : Option SymbolId := none
  /-- That declaration's name. -/
  typeName : Option String := none
  deriving DecidableEq, Repr

namespace Diagnostic

/-- An error about a declaration. -/
def forDeclaration (id : String) (symbol : SymbolId) (name message : String) : Diagnostic :=
  ⟨id, .error, message, some symbol, some name⟩

/-- An error about a contract. -/
def forContract (id message : String) : Diagnostic := ⟨id, .error, message, none, none⟩

/-- The same report, as bad as said. -/
def withSeverity (d : Diagnostic) (severity : Severity) : Diagnostic := { d with severity }

/-- Whether something was not generated. -/
def isError (d : Diagnostic) : Bool := d.severity == .error

/-- The report as a line.  The declaration is added when both its name and its handle are known. -/
def text (d : Diagnostic) : String :=
  let head := d.severity.name ++ " " ++ d.id ++ ": " ++ d.message
  match d.typeName, d.symbol with
  | some name, some symbol => head ++ " (" ++ name ++ " #" ++ toString symbol.toNat ++ ")"
  | _, _ => head

/-- No template is at hand for the variant. -/
def missingTemplate (v : Variant) : Diagnostic :=
  forContract Code.missingTemplate.id
    ("template resource '" ++ v.resource ++ "' not found for contract " ++ v.contract.name)

/-- The annotation is attached to a declaration that is not a class. -/
def notAClass (a : Annotation) (d : Declaration) : Diagnostic :=
  (forDeclaration Code.notAClass.id d.symbol d.name
    (a.name ++ " applies to classes only; " ++ d.kind.label ++ " '" ++ d.name ++ "' was skipped")
  ).withSeverity .warning

end Diagnostic

end Companion
