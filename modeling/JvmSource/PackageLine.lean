import JvmSource.Identifier

/-!
# Package declarations

The package of a source text is declared by the first line that holds nothing else: the word
`package`, a dotted path and possibly a semicolon, with spaces and tabs between them and at the
ends, and possibly a carriage return at the very end.
-/

namespace JvmSource

namespace PackageLine

/-- Spaces and tabs. -/
def isGap (c : Char) : Bool := c == ' ' || c == '\t'

/-- Characters that dotted paths are made of. -/
def isPathCharacter (c : Char) : Bool := Identifier.continues c || c == '.'

/-- Whether a text may follow the path of a declaration on its line. -/
def isEnd (text : Text) : Bool :=
  let text := text.dropWhile isGap
  let text := if text.head? = some ';' then text.drop 1 else text
  let text := text.dropWhile isGap
  text == [] || text == ['\r']

/-- The path that a line declares, if it is a declaration. -/
def path? (line : Text) : Option Text := do
  let declared ← "package".toList.isPrefixOf? (line.dropWhile isGap)
  let rest := declared.dropWhile isGap
  let path := rest.takeWhile isPathCharacter
  if rest.length < declared.length && (pathNames? path).isSome && isEnd (rest.drop path.length) then
    some path
  else none

end PackageLine

/-- The package that a text declares. -/
def declaredPackage? (text : Text) : Option Text :=
  (Text.split '\n' text).findSome? PackageLine.path?

end JvmSource
