import Companion.Template.Catalog

/-!
# Template — the shipped templates

The four bodies that generators use unless a directory replaces them.  Here they are written line by
line, with angle brackets `⟨ ⟩` where the body has braces.

* `Shipped.lines` gives the lines of a variant, `Shipped.content` the body made of them.
* `Catalog.shipped` is the catalog of the four.
-/

namespace Companion.Shipped

/-- The character of a body that a character stands for here. -/
def brace : Char → Char
  | '⟨' => '\x7b'
  | '⟩' => '\x7d'
  | c => c

/-- The body of the lines. -/
def body (lines : List String) : String :=
  String.ofList (lines.flatMap fun line => line.toList.map brace ++ ['\n'])

/-- The read-only collection that owns its store. -/
def readOnlyListOwned : List String := [
  "using System.Collections;",
  "using System.Collections.Generic;",
  "using System.Linq;",
  "",
  "namespace ⟨Namespace⟩",
  "⟨",
  "\t/// <inheritdoc cref=\"IReadOnlyList⟨T⟩\" />",
  "\t⟨Accessor⟩ partial class ⟨ClassName⟩ : IReadOnlyList<⟨CollectionType⟩>",
  "\t⟨",
  "\t\tpublic ⟨ClassName⟩(IEnumerable<⟨CollectionType⟩> items) =>",
  "\t\t\t⟨BackingField⟩ = items?.ToArray() ?? throw new System.ArgumentNullException(nameof(items));",
  "",
  "\t\t/// <inheritdoc cref=\"IReadOnlyList⟨T⟩\" />",
  "\t\tpublic IEnumerator<⟨CollectionType⟩> GetEnumerator() => ⟨BackingField⟩.GetEnumerator();",
  "",
  "\t\t/// <inheritdoc cref=\"IEnumerable\" />",
  "\t\tIEnumerator IEnumerable.GetEnumerator() => GetEnumerator();",
  "",
  "\t\t/// <inheritdoc cref=\"IReadOnlyCollection⟨T⟩\" />",
  "\t\tpublic int Count => ⟨BackingField⟩.Count;",
  "",
  "\t\t/// <inheritdoc cref=\"IReadOnlyList⟨T⟩\" />",
  "\t\tpublic ⟨CollectionType⟩ this[int index] => ⟨BackingField⟩[index];",
  "",
  "\t\tprivate readonly IReadOnlyList<⟨CollectionType⟩> ⟨BackingField⟩;",
  "\t⟩",
  "⟩"]

/-- The read-only collection that delegates to a field. -/
def readOnlyListDelegating : List String := [
  "using System.Collections;",
  "using System.Collections.Generic;",
  "using System.Linq;",
  "",
  "namespace ⟨Namespace⟩",
  "⟨",
  "\t/// <inheritdoc cref=\"IReadOnlyList⟨T⟩\" />",
  "\t⟨Accessor⟩ partial class ⟨ClassName⟩ : IReadOnlyList<⟨CollectionType⟩>",
  "\t⟨",
  "\t\t/// <inheritdoc cref=\"IReadOnlyList⟨T⟩\" />",
  "\t\tpublic IEnumerator<⟨CollectionType⟩> GetEnumerator() => ((IEnumerable<⟨CollectionType⟩>)⟨BackingField⟩).GetEnumerator();",
  "",
  "\t\t/// <inheritdoc cref=\"IEnumerable\" />",
  "\t\tIEnumerator IEnumerable.GetEnumerator() => GetEnumerator();",
  "",
  "\t\t/// <inheritdoc cref=\"IReadOnlyCollection⟨T⟩\" />",
  "\t\tpublic int Count => ((IReadOnlyCollection<⟨CollectionType⟩>)⟨BackingField⟩).Count;",
  "",
  "\t\t/// <inheritdoc cref=\"IReadOnlyList⟨T⟩\" />",
  "\t\tpublic ⟨CollectionType⟩ this[int index] => ⟨BackingField⟩[index];",
  "\t⟩",
  "⟩"]

/-- The mutable collection that owns its store. -/
def listOwned : List String := [
  "using System.Collections;",
  "using System.Collections.Generic;",
  "using System.Linq;",
  "",
  "namespace ⟨Namespace⟩",
  "⟨",
  "\t/// <inheritdoc cref=\"IList⟨T⟩\" />",
  "\t⟨Accessor⟩ partial class ⟨ClassName⟩ : IList<⟨CollectionType⟩>",
  "\t⟨",
  "\t\tpublic ⟨ClassName⟩(IEnumerable<⟨CollectionType⟩> items) =>",
  "\t\t\t⟨BackingField⟩ = items?.ToList() ?? throw new System.ArgumentNullException(nameof(items));",
  "",
  "\t\t/// <inheritdoc cref=\"IEnumerable⟨T⟩\" />",
  "\t\tpublic IEnumerator<⟨CollectionType⟩> GetEnumerator() => ⟨BackingField⟩.GetEnumerator();",
  "",
  "\t\t/// <inheritdoc cref=\"IEnumerable\" />",
  "\t\tIEnumerator IEnumerable.GetEnumerator() => GetEnumerator();",
  "",
  "\t\t/// <inheritdoc cref=\"ICollection⟨T⟩\" />",
  "\t\tpublic void Add(⟨CollectionType⟩ item) => ⟨BackingField⟩.Add(item);",
  "",
  "\t\t/// <inheritdoc cref=\"ICollection⟨T⟩\" />",
  "\t\tpublic void Clear() => ⟨BackingField⟩.Clear();",
  "",
  "\t\t/// <inheritdoc cref=\"ICollection⟨T⟩\" />",
  "\t\tpublic bool Contains(⟨CollectionType⟩ item) => ⟨BackingField⟩.Contains(item);",
  "",
  "\t\t/// <inheritdoc cref=\"ICollection⟨T⟩\" />",
  "\t\tpublic void CopyTo(⟨CollectionType⟩[] array, int arrayIndex) => ⟨BackingField⟩.CopyTo(array, arrayIndex);",
  "",
  "\t\t/// <inheritdoc cref=\"ICollection⟨T⟩\" />",
  "\t\tpublic bool Remove(⟨CollectionType⟩ item) => ⟨BackingField⟩.Remove(item);",
  "",
  "\t\t/// <inheritdoc cref=\"ICollection⟨T⟩\" />",
  "\t\tpublic int Count => ⟨BackingField⟩.Count;",
  "",
  "\t\t/// <inheritdoc cref=\"ICollection⟨T⟩\" />",
  "\t\tpublic bool IsReadOnly => ((ICollection<⟨CollectionType⟩>)⟨BackingField⟩).IsReadOnly;",
  "",
  "\t\t/// <inheritdoc cref=\"IList⟨T⟩\" />",
  "\t\tpublic int IndexOf(⟨CollectionType⟩ item) => ⟨BackingField⟩.IndexOf(item);",
  "",
  "\t\t/// <inheritdoc cref=\"IList⟨T⟩\" />",
  "\t\tpublic void Insert(int index, ⟨CollectionType⟩ item) => ⟨BackingField⟩.Insert(index, item);",
  "",
  "\t\t/// <inheritdoc cref=\"IList⟨T⟩\" />",
  "\t\tpublic void RemoveAt(int index) => ⟨BackingField⟩.RemoveAt(index);",
  "",
  "\t\t/// <inheritdoc cref=\"IList⟨T⟩\" />",
  "\t\tpublic ⟨CollectionType⟩ this[int index]",
  "\t\t⟨",
  "\t\t\tget => ⟨BackingField⟩[index];",
  "\t\t\tset => ⟨BackingField⟩[index] = value;",
  "\t\t⟩",
  "",
  "\t\tprivate readonly List<⟨CollectionType⟩> ⟨BackingField⟩;",
  "\t⟩",
  "⟩"]

/-- The mutable collection that delegates to a field. -/
def listDelegating : List String := [
  "using System.Collections;",
  "using System.Collections.Generic;",
  "using System.Linq;",
  "",
  "namespace ⟨Namespace⟩",
  "⟨",
  "\t/// <inheritdoc cref=\"IList⟨T⟩\" />",
  "\t⟨Accessor⟩ partial class ⟨ClassName⟩ : IList<⟨CollectionType⟩>",
  "\t⟨",
  "\t\t/// <inheritdoc cref=\"IEnumerable⟨T⟩\" />",
  "\t\tpublic IEnumerator<⟨CollectionType⟩> GetEnumerator() => ((IEnumerable<⟨CollectionType⟩>)⟨BackingField⟩).GetEnumerator();",
  "",
  "\t\t/// <inheritdoc cref=\"IEnumerable\" />",
  "\t\tIEnumerator IEnumerable.GetEnumerator() => GetEnumerator();",
  "",
  "\t\t/// <inheritdoc cref=\"ICollection⟨T⟩\" />",
  "\t\tpublic void Add(⟨CollectionType⟩ item) => ((ICollection<⟨CollectionType⟩>)⟨BackingField⟩).Add(item);",
  "",
  "\t\t/// <inheritdoc cref=\"ICollection⟨T⟩\" />",
  "\t\tpublic void Clear() => ((ICollection<⟨CollectionType⟩>)⟨BackingField⟩).Clear();",
  "",
  "\t\t/// <inheritdoc cref=\"ICollection⟨T⟩\" />",
  "\t\tpublic bool Contains(⟨CollectionType⟩ item) => ((ICollection<⟨CollectionType⟩>)⟨BackingField⟩).Contains(item);",
  "",
  "\t\t/// <inheritdoc cref=\"ICollection⟨T⟩\" />",
  "\t\tpublic void CopyTo(⟨CollectionType⟩[] array, int arrayIndex) => ((ICollection<⟨CollectionType⟩>)⟨BackingField⟩).CopyTo(array, arrayIndex);",
  "",
  "\t\t/// <inheritdoc cref=\"ICollection⟨T⟩\" />",
  "\t\tpublic bool Remove(⟨CollectionType⟩ item) => ((ICollection<⟨CollectionType⟩>)⟨BackingField⟩).Remove(item);",
  "",
  "\t\t/// <inheritdoc cref=\"ICollection⟨T⟩\" />",
  "\t\tpublic int Count => ((ICollection<⟨CollectionType⟩>)⟨BackingField⟩).Count;",
  "",
  "\t\t/// <inheritdoc cref=\"ICollection⟨T⟩\" />",
  "\t\tpublic bool IsReadOnly => ((ICollection<⟨CollectionType⟩>)⟨BackingField⟩).IsReadOnly;",
  "",
  "\t\t/// <inheritdoc cref=\"IList⟨T⟩\" />",
  "\t\tpublic int IndexOf(⟨CollectionType⟩ item) => ((IList<⟨CollectionType⟩>)⟨BackingField⟩).IndexOf(item);",
  "",
  "\t\t/// <inheritdoc cref=\"IList⟨T⟩\" />",
  "\t\tpublic void Insert(int index, ⟨CollectionType⟩ item) => ((IList<⟨CollectionType⟩>)⟨BackingField⟩).Insert(index, item);",
  "",
  "\t\t/// <inheritdoc cref=\"IList⟨T⟩\" />",
  "\t\tpublic void RemoveAt(int index) => ((IList<⟨CollectionType⟩>)⟨BackingField⟩).RemoveAt(index);",
  "",
  "\t\t/// <inheritdoc cref=\"IList⟨T⟩\" />",
  "\t\tpublic ⟨CollectionType⟩ this[int index]",
  "\t\t⟨",
  "\t\t\tget => ⟨BackingField⟩[index];",
  "\t\t\tset => ⟨BackingField⟩[index] = value;",
  "\t\t⟩",
  "\t⟩",
  "⟩"]

/-- The lines of a variant. -/
def lines : Variant → List String
  | ⟨.readOnlyList, .autoBacked⟩ => readOnlyListOwned
  | ⟨.readOnlyList, .userBacked⟩ => readOnlyListDelegating
  | ⟨.list, .autoBacked⟩ => listOwned
  | ⟨.list, .userBacked⟩ => listDelegating

/-- The body of a variant. -/
def content (v : Variant) : String := body (lines v)

/-- The templates that the bodies give. -/
def templates : List Template :=
  Variant.all.filterMap fun v => (Template.ofContent v (content v)).toOption

end Companion.Shipped

namespace Companion

/-- The catalog of the shipped templates. -/
def Catalog.shipped : Catalog := Catalog.empty.insertAll Shipped.templates

end Companion
