import JvmSource.Text.Basic

/-!
# Dialects

The three source languages that can be written, each described by one policy record.
-/

namespace JvmSource

/-- A language whose sources are written. -/
inductive Dialect where
  | java
  | scala
  | kotlin
deriving DecidableEq, Repr

/-- What one language asks of the files written in it. -/
structure Policy where
  /-- File extension, without the dot. -/
  extension : Text
  /-- One level of indentation. -/
  indent : Text
  /-- What ends a package or import statement. -/
  terminator : Text
  /-- Names below this namespace, at any depth, are visible without an import. -/
  ambientNamespace : Option Text
  /-- Direct members of this namespace are visible without an import. -/
  ambientMembers : Option Text
  /-- Types that have a native spelling, with that spelling. -/
  nativeTypes : List (Text × Text)
  /-- The generic type that stands for arrays. -/
  arrayType : Option Text
  /-- Whether classes declare a serial version. -/
  serialVersion : Bool
deriving DecidableEq, Repr

namespace Dialect

/-- All dialects. -/
def all : List Dialect := [java, scala, kotlin]

/-- The policy of a dialect. -/
def policy : Dialect → Policy
  | java => {
      extension := "java".toList
      indent := "    ".toList
      terminator := ";".toList
      ambientNamespace := some "java.lang.".toList
      ambientMembers := none
      nativeTypes := []
      arrayType := none
      serialVersion := true }
  -- `java.lang` is imported explicitly in Scala sources.
  | scala => {
      extension := "scala".toList
      indent := "  ".toList
      terminator := []
      ambientNamespace := none
      ambientMembers := none
      nativeTypes := []
      arrayType := none
      serialVersion := false }
  | kotlin => {
      extension := "kt".toList
      indent := "    ".toList
      terminator := []
      ambientNamespace := some "java.lang.".toList
      ambientMembers := some "kotlin.".toList
      nativeTypes := [
        ("java.lang.Integer".toList, "kotlin.Int".toList),
        ("java.lang.Object".toList, "kotlin.Any".toList)]
      arrayType := some "kotlin.Array".toList
      serialVersion := false }

/-- The dialect with a file extension. -/
def ofExtension? (extension : Text) : Option Dialect :=
  all.find? fun dialect => dialect.policy.extension == extension

/-- The name of a dialect. -/
def name : Dialect → Text
  | java => "Java".toList
  | scala => "Scala".toList
  | kotlin => "Kotlin".toList

end Dialect

namespace Policy

/-- The statement that declares the package of a file. -/
def packageStatement (policy : Policy) (package : Text) : Text :=
  "package ".toList ++ package ++ policy.terminator

/-- The statement that imports a type. -/
def importStatement (policy : Policy) (qualified : Text) : Text :=
  "import ".toList ++ qualified ++ policy.terminator

/-- Whether a qualified name is visible without an import: it lies below the ambient namespace, or
it is a direct member of the namespace whose members are ambient. -/
def isAmbient (policy : Policy) (qualified : Text) : Bool :=
  (policy.ambientNamespace.any (·.isPrefixOf qualified)) ||
    ((policy.ambientMembers.bind (·.isPrefixOf? qualified)).any (!·.contains '.'))

end Policy

end JvmSource
