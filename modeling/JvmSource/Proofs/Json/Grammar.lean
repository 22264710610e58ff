import Mathlib.Data.List.Forall2
import Mathlib.Tactic.Common
import JvmSource.Json.Reader
import JvmSource.Text.Units

/-!
# The grammar of JSON

Which texts spell a value. A value has many spellings: white space may stand around all its parts,
and every character of a string can be escaped in several ways.
-/

namespace JvmSource.Json

/-- White space between the parts of a value. -/
def Blank (text : Text) : Prop := ∀ c ∈ text, isSpace c = true

theorem blank_nil : Blank [] := fun _ h => absurd h List.not_mem_nil

/-! ## Numbers -/

structure IsDigits (digits : Text) : Prop where
  ne_nil : digits ≠ []
  isDigit : ∀ c ∈ digits, c.isDigit = true

/-- The digits before the point. -/
structure IsWhole (digits : Text) : Prop extends IsDigits digits where
  zero : digits.head? = some '0' → digits = ['0']

inductive SpellsFraction : (fraction spelled : Text) → Prop
  | none : SpellsFraction [] []
  | digits {fraction : Text} (h : IsDigits fraction) : SpellsFraction fraction ('.' :: fraction)

inductive SpellsExponent : (exponent : Option Int) → (spelled : Text) → Prop
  | none : SpellsExponent none []
  | positive {letter : Char} {sign digits : Text} (hletter : letter = 'e' ∨ letter = 'E')
      (hsign : sign = [] ∨ sign = ['+']) (h : IsDigits digits) :
      SpellsExponent (some (Text.numberOf 10 digits)) (letter :: (sign ++ digits))
  | negative {letter : Char} {digits : Text} (hletter : letter = 'e' ∨ letter = 'E')
      (h : IsDigits digits) :
      SpellsExponent (some (-Text.numberOf 10 digits)) (letter :: '-' :: digits)

/-- The spellings of a number with given parts. -/
inductive SpellsNumber (negative : Bool) (whole fraction : Text) (exponent : Option Int) :
    (spelled : Text) → Prop
  | mk {fractionText exponentText : Text} (hwhole : IsWhole whole)
      (hfraction : SpellsFraction fraction fractionText)
      (hexponent : SpellsExponent exponent exponentText) :
      SpellsNumber negative whole fraction exponent
        ((if negative then ['-'] else []) ++ (whole ++ (fractionText ++ exponentText)))

/-! ## Strings -/

/-- Whether four hexadecimal digits stand for a code unit. -/
structure SpellsUnit (unit : Nat) (digits : Text) : Prop where
  length : digits.length = 4
  hexadecimal : ∀ c ∈ digits, Text.isDigitIn 16 c = true
  value : Text.numberOf 16 digits = unit

/-- The spellings of a character of a string: itself, a backslash with a letter, or its code units
in hexadecimal digits. -/
inductive SpellsChar : (c : Char) → (spelled : Text) → Prop
  | plain {c : Char} (hcontrol : 0x20 ≤ c.toNat) (hquote : c ≠ '"') (hslash : c ≠ '\\') :
      SpellsChar c [c]
  | letter {letter c : Char} (h : (letter, c) ∈ escapes) : SpellsChar c ['\\', letter]
  | units {c : Char} {spelled : List Text} (h : List.Forall₂ SpellsUnit (Text.charUnits c) spelled) :
      SpellsChar c (spelled.flatMap fun digits => '\\' :: 'u' :: digits)

inductive SpellsText : (text spelled : Text) → Prop
  | nil : SpellsText [] []
  | cons {c : Char} {text first rest : Text} (h : SpellsChar c first) (hrest : SpellsText text rest) :
      SpellsText (c :: text) (first ++ rest)

/-- Whether a character of a string can stand for itself. -/
def isPlain (c : Char) : Bool := 0x20 ≤ c.toNat && c != '"' && c != '\\'

theorem spellsText_of_plain {text : Text} (h : text.all isPlain = true) : SpellsText text text := by
  induction text with
  | nil => exact .nil
  | cons c text ih =>
    obtain ⟨hc, hrest⟩ := List.all_cons .. ▸ h |> Bool.and_eq_true_iff.mp
    obtain ⟨⟨hcontrol, hquote⟩, hslash⟩ : (0x20 ≤ c.toNat ∧ c ≠ '"') ∧ c ≠ '\\' := by
      simpa [isPlain] using hc
    exact .cons (.plain hcontrol hquote hslash) (ih hrest)

/-! ## Values -/

/-- The spellings of one or more items, with commas between them. -/
inductive SpellsItems {α : Type} (Spells : α → Text → Prop) : List α → (spelled : Text) → Prop
  | last {item : α} {before spelled after : Text} (hbefore : Blank before)
      (h : Spells item spelled) (hafter : Blank after) :
      SpellsItems Spells [item] (before ++ (spelled ++ after))
  | cons {item : α} {items : List α} {before spelled after rest : Text} (hbefore : Blank before)
      (h : Spells item spelled) (hafter : Blank after) (hrest : SpellsItems Spells items rest) :
      SpellsItems Spells (item :: items) (before ++ (spelled ++ (after ++ ',' :: rest)))

/-- The spellings of what stands between brackets. -/
inductive SpellsGroup {α : Type} (Spells : α → Text → Prop) : List α → (spelled : Text) → Prop
  | empty {space : Text} (h : Blank space) : SpellsGroup Spells [] space
  | items {items : List α} {spelled : Text} (h : SpellsItems Spells items spelled) :
      SpellsGroup Spells items spelled

/-- The spellings of a key with its value. -/
inductive SpellsMember (Spells : Json → Text → Prop) : Text × Json → (spelled : Text) → Prop
  | mk {key keyText before after spelled : Text} {value : Json} (hkey : SpellsText key keyText)
      (hbefore : Blank before) (hafter : Blank after) (hvalue : Spells value spelled) :
      SpellsMember Spells (key, value)
        ('"' :: (keyText ++ '"' :: (before ++ ':' :: (after ++ spelled))))

/-- The spellings of a value. -/
inductive Spells : Json → (spelled : Text) → Prop
  | null : Spells .null "null".toList
  | bool (value : Bool) :
      Spells (.bool value) (if value then "true".toList else "false".toList)
  | integer {value : Int} (hleast : Int64.minValue.toInt ≤ value) (hgreatest : value < UInt64.size) :
      Spells (.integer value) (Text.decimal value)
  | real {negative : Bool} {whole fraction spelled : Text} {exponent : Option Int}
      {numeral : Numeral} (h : SpellsNumber negative whole fraction exponent spelled)
      (hvalue : ofNumber? negative whole fraction exponent = some (.real numeral)) :
      Spells (.real numeral) spelled
  | string {text spelled : Text} (h : SpellsText text spelled) :
      Spells (.string text) ('"' :: (spelled ++ ['"']))
  | array {items : List Json} {spelled : Text} (h : SpellsGroup Spells items spelled) :
      Spells (.array items) ('[' :: (spelled ++ [']']))
  | object {members : List (Text × Json)} {spelled : Text}
      (h : SpellsGroup (SpellsMember Spells) members spelled) :
      Spells (.object members) ('{' :: (spelled ++ ['}']))

/-- A text that holds one value. -/
inductive IsTextOf (json : Json) : Text → Prop
  | mk {before spelled after : Text} (hbefore : Blank before) (h : json.Spells spelled)
      (hafter : Blank after) : IsTextOf json (before ++ (spelled ++ after))

/-- Whether at most so many arrays and objects lie inside one another. -/
def FitsIn : (depth : Nat) → Json → Prop
  | 0, .array _ => False
  | 0, .object _ => False
  | depth + 1, .array items => ∀ item ∈ items, item.FitsIn depth
  | depth + 1, .object members => ∀ member ∈ members, member.2.FitsIn depth
  | _, _ => True

end JvmSource.Json
