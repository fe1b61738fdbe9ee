import Companion.Scope
import Companion.Template.Basic
import Companion.Template.Substitution

/-!
# Source unit — a generated text and its identity

A companion is published as a *unit*: a text under an identity.  A class's unit is identified by its
scope, its name and a suffix, and its text is a header followed by the rendered template.  An
annotation has a unit of its own, which declares the annotation class.
-/

namespace Companion

/-- A generated text under its identity. -/
structure SourceUnit where
  /-- What the unit is published under. -/
  identity : String
  /-- The text. -/
  text : String
  deriving DecidableEq, Repr, Inhabited

namespace SourceUnit

/-- The identity of a class's unit. -/
def identityOf (scope : Scope) (name suffix : String) : String :=
  scope.text ++ "." ++ name ++ suffix

/-- The identity of an annotation's unit. -/
def definitionIdentity (name : String) : String := name ++ ".Attribute.g.cs"

/-- What marks a text as generated. -/
def header : String :=
  "//------------------------------------------------------------------------------\n" ++
  "// <auto-generated>\n" ++
  "//     This code was generated by AutoCollection.\n" ++
  "//\n" ++
  "//     Changes to this file may cause incorrect behavior and will be lost if\n" ++
  "//     the code is regenerated.\n" ++
  "// </auto-generated>\n" ++
  "//------------------------------------------------------------------------------\n\n"

end SourceUnit

/-- What a class's unit is rendered from, besides the template. -/
structure Rendering where
  /-- The name of the class. -/
  className : String
  /-- The namespace. -/
  scope : Scope
  /-- The accessibility of the class. -/
  accessibility : Accessibility
  /-- The text of the element type. -/
  elementType : String
  /-- The field that holds the elements. -/
  backingField : String
  deriving DecidableEq, Repr

namespace Rendering

/-- The value of each placeholder. -/
def values (r : Rendering) : Bindings
  | .collectionType => r.elementType
  | .backingField => r.backingField
  | .namespace => r.scope.text
  | .className => r.className
  | .accessor => r.accessibility.keyword

/-- The text of the unit: the header and the filled template. -/
def text (r : Rendering) (t : Template) : String :=
  SourceUnit.header ++ fill r.values t.body.segments

/-- The unit. -/
def unit (r : Rendering) (t : Template) (suffix : String) : SourceUnit :=
  ⟨SourceUnit.identityOf r.scope r.className suffix, r.text t⟩

end Rendering

/-- The unit that declares the annotation class within a namespace. -/
def Annotation.definition (a : Annotation) (scope : String) : SourceUnit where
  identity := SourceUnit.definitionIdentity a.name
  text :=
    "#nullable enable\n" ++ SourceUnit.header ++
    "using System;\n" ++
    "using System.Collections.Generic;\n\n" ++
    "namespace " ++ scope ++ "\n\x7b\n" ++
    "    /// <summary>\n" ++
    "    /// When you decorate a partial class with this attribute,\n" ++
    "    /// an <see cref=\"" ++ a.contract.interfaceName ++
      "\x7bT\x7d\" /> implementation is generated for your class\n" ++
    "    /// </summary>\n" ++
    "    /// <example>\n" ++
    "    /// <code>\n" ++
    "    /// [" ++ a.name ++ "(typeof(string))]\n" ++
    "    /// public partial class MyStringCollection;\n" ++
    "    /// </code>\n" ++
    "    /// </example>\n" ++
    "    /// <example>\n" ++
    "    /// <code>\n" ++
    "    /// [" ++ a.name ++ "(typeof(Thing), nameof(_things))]\n" ++
    "    /// public partial class MyThingCollection(IEnumerable&lt;Thing&gt; things)\n" ++
    "    /// \x7b\n" ++
    "    ///     private readonly " ++ a.contract.interfaceName ++
      "&lt;Thing&gt; _things = things.ToList();\n" ++
    "    /// \x7d\n" ++
    "    /// </code>\n" ++
    "    /// </example>\n" ++
    "    [AttributeUsage(AttributeTargets.Class, Inherited = false)]\n" ++
    "    internal sealed class " ++ a.name ++ " : Attribute\n" ++
    "    \x7b\n" ++
    "        internal " ++ a.name ++ "(\n" ++
    "            Type " ++ a.elementParameter ++ ",\n" ++
    "            string? " ++ a.backingParameter ++ " = null\n" ++
    "            ) \x7b \x7d\n" ++
    "    \x7d\n\x7d\n"

end Companion
