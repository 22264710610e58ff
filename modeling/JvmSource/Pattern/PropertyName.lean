import JvmSource.Text.Basic
import JvmSource.Unicode.Age
import JvmSource.Unicode.Segmentation

/-!
# Names of character properties

A pattern names a property alone, or a property and one of its values. Names are compared without
regard to case, spaces, underscores, hyphens and a leading `is`.

A name that stands alone is that of a property that characters have or lack, of a general category,
or of a script.
-/

namespace JvmSource.Pattern

open Unicode

/-- The form in which property names are compared. -/
def looseName (name : Text) : String :=
  let isKept c := isAscii c && c != ' ' && c != '_' && c != '-'
  match name.map Char.toLower with
  | 'i' :: 's' :: rest =>
    -- `isc` abbreviates a property and is not the category `c`
    if rest.filter isKept = ['c'] then "isc" else String.ofList (rest.filter isKept)
  | name => String.ofList (name.filter isKept)

open Category in
/-- The general categories and their groups, with their short and long names. -/
def categoryNames : List (List String × List Category) := [
  (["l", "letter"], letters), (["lc", "casedletter"], casedLetters),
  (["lu", "uppercaseletter"], [uppercaseLetter]), (["ll", "lowercaseletter"], [lowercaseLetter]),
  (["lt", "titlecaseletter"], [titlecaseLetter]), (["lm", "modifierletter"], [modifierLetter]),
  (["lo", "otherletter"], [otherLetter]),
  (["m", "mark", "combiningmark"], marks), (["mn", "nonspacingmark"], [nonspacingMark]),
  (["mc", "spacingmark"], [spacingMark]), (["me", "enclosingmark"], [enclosingMark]),
  (["n", "number"], numbers), (["nd", "decimalnumber", "digit"], [decimalNumber]),
  (["nl", "letternumber"], [letterNumber]), (["no", "othernumber"], [otherNumber]),
  (["p", "punctuation", "punct"], punctuation),
  (["pc", "connectorpunctuation"], [.connectorPunctuation]),
  (["pd", "dashpunctuation"], [.dashPunctuation]), (["ps", "openpunctuation"], [.openPunctuation]),
  (["pe", "closepunctuation"], [.closePunctuation]),
  (["pi", "initialpunctuation"], [.initialPunctuation]),
  (["pf", "finalpunctuation"], [.finalPunctuation]),
  (["po", "otherpunctuation"], [.otherPunctuation]),
  (["s", "symbol"], symbols), (["sm", "mathsymbol"], [mathSymbol]),
  (["sc", "currencysymbol"], [currencySymbol]), (["sk", "modifiersymbol"], [modifierSymbol]),
  (["so", "othersymbol"], [otherSymbol]),
  (["z", "separator"], separators), (["zs", "spaceseparator"], [spaceSeparator]),
  (["zl", "lineseparator"], [lineSeparator]), (["zp", "paragraphseparator"], [paragraphSeparator]),
  (["c", "other"], others), (["cc", "control", "cntrl"], [control]), (["cf", "format"], [format]),
  (["co", "privateuse"], [.privateUse]), (["cn", "unassigned"], [unassigned])]

/-- What a table has under a name. -/
def named? {α : Type} (table : List (List String × α)) (name : String) : Option α :=
  (table.find? (·.1.contains name)).map (·.2)

/-- The characters of a general category. -/
def categorySet? (name : String) : Option CharSet :=
  if name = "any" then some (CharSet.complement .none)
  else if name = "assigned" then some Category.unassigned.set.complement
  else if name = "ascii" then some (.range '\x00' '\x7F')
  else (named? categoryNames name).map Category.sets

/-- The characters of a property that is named alone. -/
def loneSet? (name : String) : Option CharSet :=
  ((named? BinaryProperty.named name).map (·.set)).or <|
    (categorySet? name).or ((Script.find? name).map (·.set))

/-- The characters with a value of a property. -/
def valueSet? (property value : String) : Option CharSet :=
  match property with
  | "gc" | "generalcategory" => categorySet? value
  | "sc" | "script" => (Script.find? value).map (·.set)
  | "scx" | "scriptextensions" => (Script.find? value).map (·.users)
  | "age" => age? value
  | "gcb" | "graphemeclusterbreak" => (named? GraphemeBreak.named value).map (·.set)
  | "wb" | "wordbreak" => (named? WordBreak.named value).map (·.set)
  | "sb" | "sentencebreak" => (named? SentenceBreak.named value).map (·.set)
  | _ => none

/-- The text before and after the first `!=`. -/
def cutAtUnequal? : Text → Option (Text × Text)
  | '!' :: '=' :: value => some ([], value)
  | c :: rest => (cutAtUnequal? rest).map fun (key, value) => (c :: key, value)
  | [] => none

/-- The text before and after the first occurrence of a character. -/
def cutAt? (separator : Char) (text : Text) : Option (Text × Text) :=
  let key := text.takeWhile (· != separator)
  match text.drop key.length with
  | [] => none
  | _ :: value => some (key, value)

/-- The characters that a query is about, and whether it asks for the others. -/
def propertySet? (query : Text) : Option (CharSet × Bool) :=
  let valueOf (pair : Text × Text) := valueSet? (looseName pair.1) (looseName pair.2)
  match cutAtUnequal? query with
  | some pair => (valueOf pair).map (·, true)
  | none =>
    match (cutAt? ':' query).or (cutAt? '=' query) with
    | some pair => (valueOf pair).map (·, false)
    | none => (loneSet? (looseName query)).map (·, false)

end JvmSource.Pattern
