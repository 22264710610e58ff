import JvmSource.Dialect.Native
import JvmSource.Import.Table
import JvmSource.Pattern.Search
import JvmSource.TypeRef.Parser
import JvmSource.TypeRef.Printer

/-!
# Resolving type references

Each reference in a file is written by its simple name where that is possible, and the simple name
is then bound in the import table. A reference that is excluded, that would hide the class of the
file, or whose simple name stands for another type is written in full.

References are resolved from left to right, an outer type before its arguments. What remains to be
written is kept on a list, so nesting does not deepen the work.
-/

namespace JvmSource

/-- What identifies the file that is being written. -/
structure Scope where
  className : Text
  /-- The package, once it has been declared. -/
  package : Option Text

/-- Whether a qualified name is that of the class of the file. -/
def Scope.isSelf (scope : Scope) (qualified : Text) : Bool :=
  scope.package.any fun package => qualified == package ++ '.' :: scope.className

/-- The rules by which references of a file are resolved. -/
structure Resolver where
  policy : Policy
  /-- Types that are never imported. -/
  excluded : Option Pattern

namespace Resolver

/-- Whether a type is never imported. -/
def excludes (resolver : Resolver) (type : TypeRef) : Bool :=
  resolver.excluded.any (·.search type.print)

/-- The native spelling of a qualified type. -/
def rename (resolver : Resolver) (type : TypeRef) : TypeRef :=
  if type.isQualified then resolver.policy.nativeType type else type

/-- Binds the class that a path names, where `keep` names of the path are to be written: the class
is the first of them. Returns the number of names that are left out and the table with the binding,
or nothing if the reference has to be written in full. Members of the class of the file are written
without its name. -/
def bindClass? (resolver : Resolver) (scope : Scope) (table : ImportTable) (type : TypeRef)
    (keep : Nat) : Option (Nat × ImportTable) :=
  if resolver.excludes type || keep == 0 || type.names.length ≤ keep then none
  else
    let position := type.names.length - keep
    let simple := type.names[position]?.getD []
    let qualified := Text.dotted (type.names.take (position + 1))
    let self := scope.isSelf qualified
    if simple == scope.className && !self then none
    else
      (table.bind? simple qualified).map fun table =>
        (if self && position + 1 < type.names.length then position + 1 else position, table)

/-- Something that remains to be written. -/
inductive Pending where
  /-- A reference of which `keep` names are to be written. -/
  | type (type : TypeRef) (keep : Nat)
  | text (text : Text)

/-- Puts an argument at the front of what remains to be written. What comes last in the text is put
there first; a comma stands before every argument but the one at the start. -/
def pushArg (pending : List Pending) (arg : TypeArg) (position : Nat) : List Pending :=
  let pending := if arg.nullable then .text ['?'] :: pending else pending
  let pending := .type arg.type 1 :: pending
  if 0 < position then .text [',', ' '] :: pending else pending

/-- Puts arguments at the front of what remains to be written, from the last one to the first. -/
def pushArgs (args : List TypeArg) (pending : List Pending) : List Pending :=
  args.zipIdx.reverse.foldl (fun pending (arg, position) => pushArg pending arg position) pending

mutual

/-- A bound on the number of steps that writing a reference takes. -/
def weight : TypeRef → Nat
  | .mk _ suffix => suffixWeight suffix + 1

/-- The part of the bound that is due to a suffix. Array dimensions may turn into nested types. -/
def suffixWeight : Suffix → Nat
  | .empty => 0
  | .plain _ args => argsWeight args + 1
  | .verbatim text => 2 * text.length

/-- The part of the bound that is due to arguments. -/
def argsWeight : List TypeArg → Nat
  | [] => 0
  | .mk type _ :: args => weight type + 2 + argsWeight args

end

/-- Writes what remains, at most `steps` things of it. -/
def write (resolver : Resolver) (scope : Scope) :
    (steps : Nat) → List Pending → ImportTable → Text × ImportTable
  | 0, _, table => ([], table)
  | _, [], table => ([], table)
  | steps + 1, .text text :: pending, table =>
    let (more, table) := resolver.write scope steps pending table
    (text ++ more, table)
  | steps + 1, .type type keep :: pending, table =>
    let type := resolver.rename type
    match resolver.bindClass? scope table type keep with
    | none =>
      let (more, table) := resolver.write scope steps pending table
      (type.print ++ more, table)
    | some (omitted, table) =>
      let path := Text.dotted (type.names.drop omitted)
      match type.suffix with
      | .plain bracket args =>
        let (more, table) := resolver.write scope steps
          (pushArgs args (.text [bracket.closing] :: pending)) table
        (path ++ bracket.opening :: more, table)
      | suffix =>
        let (more, table) := resolver.write scope steps pending table
        (path ++ suffix.print ++ more, table)

/-- Resolves a reference of which `keep` names are to be written. -/
def resolveType (resolver : Resolver) (scope : Scope) (table : ImportTable) (type : TypeRef)
    (keep : Nat) : Text × ImportTable :=
  resolver.write scope (weight type) [.type type keep] table

/-- Resolves the text of a reference. Text without a dot is written as it is; other text that is no
type reference is written in its native spelling. -/
def resolve (resolver : Resolver) (scope : Scope) (table : ImportTable) (text : Text)
    (keep : Nat) : Text × ImportTable :=
  if !text.contains '.' then (text, table)
  else
    match TypeRef.parse? text with
    | some type => resolver.resolveType scope table type keep
    | none => (resolver.policy.nativeName text, table)

/-- Resolves several references, one after the other. -/
def resolveAll (resolver : Resolver) (scope : Scope) (keep : Nat) :
    List Text → ImportTable → List Text × ImportTable
  | [], table => ([], table)
  | text :: texts, table =>
    let (written, table) := resolver.resolve scope table text keep
    let (more, table) := resolver.resolveAll scope keep texts table
    (written :: more, table)

end Resolver

end JvmSource
