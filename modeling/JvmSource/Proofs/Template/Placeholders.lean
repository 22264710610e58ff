import Mathlib.Data.List.Basic
import Mathlib.Tactic.Common
import JvmSource.Template

/-!
# Placeholders

A template is read from left to right in one way only: a percent sign belongs to the percent sign or
the `s` right behind it, and stands for itself if there is none. What a template is filled in to is
told by this reading alone. The arguments are put into it as they are, so nothing in them is taken
for a placeholder (`format_eq_of_reading`).
-/

namespace JvmSource.Template

/-- What a template is made of. -/
inductive Token where
  | char (c : Char)
  /-- Two percent signs, which stand for one. -/
  | sign
  | placeholder
deriving DecidableEq, Repr

namespace Token

/-- How a token is written in a template. -/
def spelling : Token → Text
  | char c => [c]
  | sign => ['%', '%']
  | placeholder => ['%', 's']

/-- What a token is filled in to if it has `before` placeholders before it. -/
def filled (args : List Arg) (before : Nat) : Token → Text
  | char c => [c]
  | sign => ['%']
  | placeholder => (args[before]?).elim ['%', 's'] Arg.display

end Token

/-- The text that tokens are written as. -/
def spell (tokens : List Token) : Text := tokens.flatMap Token.spelling

/-- Whether tokens are the reading of a template from left to right: no percent sign stands for
itself before a character that it forms a pair with. -/
structure IsReading (tokens : List Token) (template : Text) : Prop where
  spells : spell tokens = template
  alone : ∀ before after, tokens = before ++ .char '%' :: after →
    (spell after).head? ≠ some '%' ∧ (spell after).head? ≠ some 's'

/-- What tokens are filled in to, each placeholder by the argument at its place. -/
def fill (args : List Arg) (tokens : List Token) : Text :=
  (tokens.mapIdx fun i token => token.filled args ((tokens.take i).count .placeholder)).flatten

/-- A text with each percent sign written twice. -/
def doubled (text : Text) : Text := text.flatMap fun c => if c = '%' then ['%', '%'] else [c]

/-- The tokens of a template. -/
def scan : Text → List Token
  | '%' :: 's' :: rest => .placeholder :: scan rest
  | '%' :: '%' :: rest => .sign :: scan rest
  | c :: rest => .char c :: scan rest
  | [] => []

variable {tokens tokens' : List Token} {template rest : Text} {args : List Arg} {c : Char}

/-! ## Reading -/

theorem spell_cons (token : Token) (tokens : List Token) :
    spell (token :: tokens) = token.spelling ++ spell tokens := List.flatMap_cons

theorem isReading_nil : IsReading [] [] := ⟨rfl, by simp⟩

/-- A token can be put before a reading, unless it is a percent sign that would form a pair. -/
theorem IsReading.cons (h : IsReading tokens template) (token : Token)
    (halone : token = .char '%' → template.head? ≠ some '%' ∧ template.head? ≠ some 's') :
    IsReading (token :: tokens) (token.spelling ++ template) where
  spells := by rw [spell_cons, h.spells]
  alone before after hsplit := by
    cases before with
    | nil =>
      obtain ⟨rfl, rfl⟩ := List.cons.inj hsplit
      rw [h.spells]
      exact halone rfl
    | cons first before => exact h.alone before after (List.cons.inj hsplit).2

/-- The first token of a reading is followed by a reading of what is left. -/
theorem IsReading.of_cons {token : Token} (h : IsReading (token :: tokens) template) :
    ∃ rest, template = token.spelling ++ rest ∧ IsReading tokens rest ∧
      (token = .char '%' → rest.head? ≠ some '%' ∧ rest.head? ≠ some 's') := by
  refine ⟨spell tokens, ?_, ⟨rfl, fun before after hsplit => ?_⟩, ?_⟩
  · rw [← h.spells, spell_cons]
  · exact h.alone (token :: before) after (by rw [hsplit]; rfl)
  · rintro rfl
    exact h.alone [] tokens rfl

/-- Scanning a template reads it. -/
theorem isReading_scan (template : Text) : IsReading (scan template) template := by
  induction template using scan.induct with
  | case1 rest ih => exact ih.cons .placeholder (by simp)
  | case2 rest ih => exact ih.cons .sign (by simp)
  | case3 c rest hplaceholder hsign ih =>
    rw [scan.eq_3 c rest hplaceholder hsign]
    refine ih.cons (.char c) fun hc => ?_
    obtain rfl : c = '%' := Token.char.inj hc
    -- the sign forms a pair with neither of the characters
    constructor
    · intro hhead
      obtain ⟨after, rfl⟩ := List.head?_eq_some_iff.mp hhead
      exact hsign after rfl rfl
    · intro hhead
      obtain ⟨after, rfl⟩ := List.head?_eq_some_iff.mp hhead
      exact hplaceholder after rfl rfl
  | case4 => exact isReading_nil

/-- What a template starts with tells its first token. -/
theorem Token.eq_of_spelling {token token' : Token} {rest' : Text}
    (hsame : token.spelling ++ rest = token'.spelling ++ rest')
    (halone : token = .char '%' → rest.head? ≠ some '%' ∧ rest.head? ≠ some 's')
    (halone' : token' = .char '%' → rest'.head? ≠ some '%' ∧ rest'.head? ≠ some 's') :
    token = token' ∧ rest = rest' := by
  -- different tokens start alike only where a percent sign stands for itself
  cases token with
  | char c =>
    cases token' with
    | char d => simpa [spelling] using hsame
    | sign =>
      obtain ⟨rfl, rfl⟩ := List.cons.inj hsame
      exact absurd rfl (halone rfl).1
    | placeholder =>
      obtain ⟨rfl, rfl⟩ := List.cons.inj hsame
      exact absurd rfl (halone rfl).2
  | sign =>
    cases token' with
    | char d =>
      obtain ⟨rfl, rfl⟩ := List.cons.inj hsame
      exact absurd rfl (halone' rfl).1
    | sign => simpa [spelling] using hsame
    | placeholder => exact absurd hsame (by simp [spelling])
  | placeholder =>
    cases token' with
    | char d =>
      obtain ⟨rfl, rfl⟩ := List.cons.inj hsame
      exact absurd rfl (halone' rfl).2
    | sign => exact absurd hsame (by simp [spelling])
    | placeholder => simpa [spelling] using hsame

/-- A template has one reading. -/
theorem IsReading.eq (h : IsReading tokens template) (h' : IsReading tokens' template) :
    tokens = tokens' := by
  induction tokens generalizing tokens' template with
  | nil =>
    cases tokens' with
    | nil => rfl
    | cons token tokens' =>
      have hempty : spell (token :: tokens') = [] := h'.spells.trans h.spells.symm
      cases token <;> exact absurd hempty (by simp [spell, Token.spelling])
  | cons token tokens ih =>
    cases tokens' with
    | nil =>
      have hempty : spell (token :: tokens) = [] := h.spells.trans h'.spells.symm
      cases token <;> exact absurd hempty (by simp [spell, Token.spelling])
    | cons token' tokens' =>
      obtain ⟨rest, rfl, hrest, halone⟩ := h.of_cons
      obtain ⟨rest', hsame, hrest', halone'⟩ := h'.of_cons
      obtain ⟨rfl, rfl⟩ := Token.eq_of_spelling hsame halone halone'
      rw [ih hrest hrest']

/-! ## Filling in -/

/-- Behind a placeholder the arguments but the first are left. -/
theorem filled_cons (arg : Arg) (args : List Arg) (before : Nat) (token : Token) :
    token.filled (arg :: args) (before + 1) = token.filled args before := by
  cases token with
  | placeholder => simp [Token.filled]
  | _ => rfl

theorem fill_placeholder (arg : Arg) (args : List Arg) (tokens : List Token) :
    fill (arg :: args) (.placeholder :: tokens) = arg.display ++ fill args tokens := by
  simp only [fill, List.mapIdx_cons, List.flatten_cons, List.take_succ_cons, List.count_cons_self,
    filled_cons]
  rfl

theorem fill_of_ne_placeholder {token : Token} (h : token ≠ .placeholder) (args : List Arg)
    (tokens : List Token) :
    fill args (token :: tokens) = token.filled args 0 ++ fill args tokens := by
  simp only [fill, List.mapIdx_cons, List.flatten_cons, List.take_succ_cons,
    List.count_cons_of_ne h]
  rfl

/-- A placeholder without an argument stays as it is. -/
theorem fill_no_args (tokens : List Token) :
    fill [] (.placeholder :: tokens) = '%' :: 's' :: fill [] tokens := by
  have hnone : ∀ before token, Token.filled [] before token = Token.filled [] 0 token := by
    intro before token
    cases token <;> rfl
  simp only [fill, List.mapIdx_cons, List.flatten_cons, hnone _]
  rfl

/-- Substitution fills in the tokens of the template. -/
theorem substitute_eq_fill_scan (template : Text) (args : List Arg) :
    substitute template args = fill args (scan template) := by
  induction template, args using substitute.induct with
  | case1 rest arg args ih => rw [substitute, scan, fill_placeholder, ih]
  | case2 rest ih => rw [substitute, scan, fill_no_args, ih]
  | case3 rest args ih =>
    rw [substitute, scan, fill_of_ne_placeholder (by simp), ih]
    rfl
  | case4 c rest args harg hnone hsign ih =>
    have hplaceholder : ∀ after, c = '%' → rest = 's' :: after → False := by
      intro after hc hrest
      cases args with
      | nil => exact hnone after rfl hc hrest
      | cons arg args => exact harg after arg args rfl hc hrest
    rw [substitute.eq_4 args c rest hsign harg hnone, scan.eq_3 c rest hplaceholder hsign,
      fill_of_ne_placeholder (by simp), ih]
    rfl
  | case5 args => rfl

/-- A text with its percent signs doubled is filled in to itself. -/
theorem substitute_doubled (text : Text) (args : List Arg) :
    substitute (doubled text) args = text := by
  induction text with
  | nil => rfl
  | cons c text ih =>
    rw [doubled, List.flatMap_cons, ← doubled]
    split
    · next hc => rw [hc, List.cons_append, List.cons_append, substitute, List.nil_append, ih]
    · next hc =>
      rw [List.cons_append, List.nil_append, substitute.eq_4, ih]
      all_goals simp [hc]

/-- A template has one reading, and with arguments it is filled in token by token: the placeholder
with `k` others before it by the `k`-th argument, counted from zero, or by itself if there is none,
a pair of percent signs by one of them, and any other character by itself. So a text whose percent
signs have been doubled comes out as it was. -/
theorem format_eq_of_reading (template : Text) {args : List Arg} (hargs : args ≠ []) :
    (∃ tokens, IsReading tokens template ∧ (∀ other, IsReading other template → other = tokens) ∧
      format template args = fill args tokens) ∧
    ∀ text, format (doubled text) args = text := by
  have hformat : ∀ template, format template args = substitute template args := by
    intro template
    rw [format, if_neg (by simpa using hargs)]
  refine ⟨⟨scan template, isReading_scan template, fun other hother => ?_, ?_⟩, fun text => ?_⟩
  · exact hother.eq (isReading_scan template)
  · rw [hformat, substitute_eq_fill_scan]
  · rw [hformat, substitute_doubled]

/-- An argument that looks like a placeholder, too few arguments, and percent signs in a row. -/
theorem format_eq_of_reading_signs :
    let template := "%%%s%%s %%% %s 5%".toList
    let args : List Arg := [.list [.text "%s".toList, .int (-1)]]
    args ≠ [] ∧ format template args = "%%s, -1%s %% %s 5%".toList ∧
      ((∃ tokens, IsReading tokens template ∧ (∀ other, IsReading other template → other = tokens) ∧
        format template args = fill args tokens) ∧
      ∀ text, format (doubled text) args = text) := by
  intro template args
  exact ⟨by simp [args], by decide, format_eq_of_reading template (by simp [args])⟩

end JvmSource.Template
