import JvmSource.Import.Table

/-!
# Orders of imports

The imports of a file are written in an order of choice. Names that the order does not tell apart
stay in the order of their code points.
-/

namespace JvmSource

/-- An order in which imports are written. -/
structure ImportOrder where
  name : Text
  compare : Text → Text → Ordering

namespace ImportOrder

/-- By code point. -/
def lexical : ImportOrder where
  name := "LexicalOrdering".toList
  compare := Text.order

/-- By code point, the last first. -/
def reverse : ImportOrder where
  name := "Reverse".toList
  compare a b := Text.order b a

/-- The names of the Java library before all others. -/
def javaFirst : ImportOrder where
  name := "JavaFirst".toList
  compare a b :=
    let rank (name : Text) : Nat := if "java.".toList.isPrefixOf name then 0 else 1
    Ord.compare (rank a) (rank b)

/-- By the number of UTF-8 bytes. -/
def shortest : ImportOrder where
  name := "Shortest".toList
  compare a b := Ord.compare (Text.byteSize a) (Text.byteSize b)

end ImportOrder

/-- The qualified names of a table in an order. -/
def ImportTable.ordered (table : ImportTable) (order : ImportOrder) : List Text :=
  table.qualifiedNames.mergeSort fun a b => (order.compare a b).isLE

end JvmSource
