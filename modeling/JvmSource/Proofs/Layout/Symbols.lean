import Mathlib.Data.List.Chain
import Mathlib.Tactic.Common
import JvmSource.Layout.Document

/-!
# What a document holds

A document comes in pieces, and what it says is what the pieces hold: characters and marks, in their
order. Adding a piece adds what it holds (`symbols_push`), and filling in the marks is done symbol
by symbol (`render_eq_symbols`). The pieces of a document that is built by adding are in normal
form, and then they are given by the symbols (`ofSymbols_symbols`).
-/

namespace JvmSource

/-- A character or a mark. -/
inductive Symbol where
  | char (c : Char)
  | mark (mark : Mark)
deriving DecidableEq, Repr

namespace Symbol

/-- What a symbol stands for when marks are filled in. -/
def render (fill : Mark → Text) : Symbol → Text
  | char c => [c]
  | mark place => fill place

/-- The piece that holds one symbol. -/
def segment : Symbol → Segment
  | char c => .text [c]
  | mark place => .mark place

end Symbol

/-- The symbols of a text. -/
def Text.symbols (text : Text) : List Symbol := text.map .char

theorem Text.symbols_append (first second : Text) :
    symbols (first ++ second) = symbols first ++ symbols second := List.map_append

/-- Filling in changes no text. -/
theorem Text.render_symbols (fill : Mark → Text) (text : Text) :
    (symbols text).flatMap (Symbol.render fill) = text := by
  simp [symbols, List.flatMap_map, Symbol.render]

/-- Whether a piece is text. -/
def Segment.isText : Segment → Bool
  | .text _ => true
  | .mark _ => false

namespace Document

/-- What a document holds, in order. -/
def symbols : Document → List Symbol
  | [] => []
  | .text text :: rest => Text.symbols text ++ symbols rest
  | .mark mark :: rest => .mark mark :: symbols rest

/-- Whether no piece of text is empty, and no two are neighbours. -/
structure IsNormal (document : Document) : Prop where
  filled : ∀ text, .text text ∈ document → text ≠ []
  apart : document.IsChain fun first second => ¬ (first.isText = true ∧ second.isText = true)

/-- The document that holds the given symbols. -/
def ofSymbols (symbols : List Symbol) : Document := (symbols.map Symbol.segment).foldl push []

variable {document : Document}

/-! ## Adding to a document -/

theorem symbols_append (first second : Document) :
    symbols (first ++ second) = first.symbols ++ second.symbols := by
  induction first with
  | nil => rfl
  | cons segment first ih => cases segment <;> simp [symbols, ih]

/-- Text is added to text at the end of a document. -/
theorem pushText_concat_text (front : Document) (last : Text) {text : Text} (htext : text ≠ []) :
    pushText (front ++ [.text last]) text = front ++ [.text (last ++ text)] := by
  obtain ⟨c, rest, rfl⟩ := List.exists_cons_of_ne_nil htext
  induction front with
  | nil => rfl
  | cons segment front ih =>
    cases front with
    | nil => cases segment <;> rfl
    | cons next front =>
      show pushText (segment :: (next :: front ++ [.text last])) (c :: rest) =
        segment :: (next :: front ++ [.text (last ++ c :: rest)])
      rw [← ih]
      cases segment <;> rfl

/-- Text becomes a piece of its own if no text is at the end of a document. -/
theorem pushText_of_last (hlast : ∀ last, document.getLast? ≠ some (.text last)) {text : Text}
    (htext : text ≠ []) : document.pushText text = document ++ [.text text] := by
  obtain ⟨c, rest, rfl⟩ := List.exists_cons_of_ne_nil htext
  induction document with
  | nil => rfl
  | cons segment document ih =>
    cases document with
    | nil =>
      cases segment with
      | text last => exact absurd rfl (hlast last)
      | mark mark => rfl
    | cons next document =>
      have hrest := ih (by simpa [List.getLast?_cons_cons] using hlast)
      rw [List.cons_append, ← hrest]
      cases segment <;> rfl

/-- Empty text adds nothing. -/
theorem pushText_nil (document : Document) : document.pushText [] = document := by
  cases document <;> rfl

/-- A document has no text at its end, or it has. -/
theorem last_cases (document : Document) :
    (∀ last, document.getLast? ≠ some (.text last)) ∨
      ∃ front last, document = front ++ [.text last] := by
  rcases List.eq_nil_or_concat document with rfl | ⟨front, segment, rfl⟩
  · exact Or.inl (by simp)
  · cases segment with
    | text last => exact Or.inr ⟨front, last, by simp⟩
    | mark mark => exact Or.inl (by simp)

/-- Adding text adds its characters at the end. -/
theorem symbols_pushText (document : Document) (text : Text) :
    (document.pushText text).symbols = document.symbols ++ Text.symbols text := by
  by_cases htext : text = []
  · rw [htext, pushText_nil]
    exact (List.append_nil _).symm
  · rcases document.last_cases with hlast | ⟨front, last, rfl⟩
    · rw [pushText_of_last hlast htext, symbols_append]
      simp [symbols]
    · rw [pushText_concat_text front last htext, symbols_append, symbols_append]
      simp [symbols, Text.symbols_append]

/-- Adding a piece adds what it holds at the end. -/
theorem symbols_push (document : Document) (segment : Segment) :
    (document.push segment).symbols = document.symbols ++ symbols [segment] := by
  cases segment with
  | text text => simp [push, symbols_pushText, symbols]
  | mark mark => simp [push, pushMark, symbols_append, symbols]

/-- Adding pieces one after the other adds what they hold, in their order. -/
theorem symbols_foldl_push (document segments : Document) :
    (segments.foldl push document).symbols = document.symbols ++ segments.symbols := by
  induction segments generalizing document with
  | nil => simp [symbols]
  | cons segment rest ih =>
    have hsplit : symbols (segment :: rest) = symbols [segment] ++ symbols rest :=
      symbols_append [segment] rest
    rw [List.foldl_cons, ih, symbols_push, hsplit, List.append_assoc]

/-- A document that is built from symbols holds just these. -/
theorem symbols_ofSymbols (symbols : List Symbol) : (ofSymbols symbols).symbols = symbols := by
  rw [ofSymbols, symbols_foldl_push]
  show [] ++ Document.symbols (symbols.map Symbol.segment) = symbols
  induction symbols with
  | nil => rfl
  | cons symbol rest ih =>
    cases symbol <;> simpa [Document.symbols, Symbol.segment, Text.symbols] using ih

/-! ## Filling in -/

/-- Filling in a document is filling in what it holds, symbol by symbol. -/
theorem render_eq_symbols (fill : Mark → Text) (document : Document) :
    document.render fill = document.symbols.flatMap (Symbol.render fill) := by
  induction document with
  | nil => rfl
  | cons segment rest ih =>
    cases segment <;> simp [render, symbols, Text.render_symbols, Symbol.render, ih]

/-- The text of a document is its characters without the marks. -/
theorem text_eq_symbols (document : Document) :
    document.text = document.symbols.flatMap (Symbol.render fun _ => []) :=
  render_eq_symbols _ document

/-! ## Normal form -/

theorem isNormal_nil : IsNormal [] := ⟨by simp, List.IsChain.nil⟩

/-- A piece at the end keeps normal form if it is not empty and does not join the text before. -/
theorem IsNormal.concat (h : document.IsNormal) {segment : Segment}
    (hfilled : ∀ text, segment = .text text → text ≠ [])
    (hapart : ∀ last, document.getLast? = some (.text last) → segment.isText = false) :
    IsNormal (document ++ [segment]) where
  filled text htext := by
    rcases List.mem_append.mp htext with hold | hnew
    · exact h.filled text hold
    · exact hfilled text (List.mem_singleton.mp hnew).symm
  apart := by
    rw [List.isChain_append]
    refine ⟨h.apart, List.IsChain.singleton segment, ?_⟩
    rintro (last | mark) hlast found hfound ⟨hbefore, htext⟩
    · rw [← Option.some_inj.mp hfound, hapart last hlast] at htext
      exact absurd htext (by simp)
    · exact absurd hbefore (by simp [Segment.isText])

/-- The front part of a document in normal form is in normal form. -/
theorem IsNormal.of_append {front rest : Document} (h : IsNormal (front ++ rest)) :
    front.IsNormal where
  filled text htext := h.filled text (List.mem_append_left rest htext)
  apart := (List.isChain_append.mp h.apart).1

/-- Before a text at the end of a document in normal form stands no other text. -/
theorem IsNormal.not_text_of_concat {front : Document} {last : Text}
    (h : IsNormal (front ++ [.text last])) : ∀ before, front.getLast? ≠ some (.text before) :=
  fun before hbefore =>
    (List.isChain_append.mp h.apart).2.2 (.text before) hbefore (.text last) rfl ⟨rfl, rfl⟩

/-- Adding text keeps normal form, since it joins the text at the end. -/
theorem IsNormal.pushText (h : document.IsNormal) (text : Text) :
    (document.pushText text).IsNormal := by
  by_cases htext : text = []
  · rwa [htext, pushText_nil]
  · rcases document.last_cases with hlast | ⟨front, last, rfl⟩
    · rw [pushText_of_last hlast htext]
      refine h.concat (fun other hother => ?_) (fun last hfound => absurd hfound (hlast last))
      rwa [← Segment.text.inj hother]
    · rw [pushText_concat_text front last htext]
      refine h.of_append.concat (fun other hother => ?_) fun before hbefore =>
        absurd hbefore (h.not_text_of_concat before)
      rw [← Segment.text.inj hother]
      exact List.append_ne_nil_of_right_ne_nil last htext

/-- Adding a piece keeps normal form. -/
theorem IsNormal.push (h : document.IsNormal) (segment : Segment) :
    (document.push segment).IsNormal := by
  cases segment with
  | text text => exact h.pushText text
  | mark mark => exact h.concat (by simp) (by simp [Segment.isText])

/-- Adding pieces keeps normal form, in whatever form the pieces are. -/
theorem IsNormal.foldl_push (h : document.IsNormal) (segments : Document) :
    IsNormal (segments.foldl Document.push document) := by
  induction segments generalizing document with
  | nil => exact h
  | cons segment rest ih => exact ih (h.push segment)

/-- A document that is built from symbols is in normal form. -/
theorem isNormal_ofSymbols (symbols : List Symbol) : (ofSymbols symbols).IsNormal :=
  isNormal_nil.foldl_push _

/-- Adding two texts is adding them as one. -/
theorem pushText_pushText (document : Document) (first second : Text) :
    (document.pushText first).pushText second = document.pushText (first ++ second) := by
  by_cases hfirst : first = []
  · rw [hfirst, pushText_nil, List.nil_append]
  by_cases hsecond : second = []
  · rw [hsecond, pushText_nil, List.append_nil]
  have hboth : first ++ second ≠ [] := List.append_ne_nil_of_left_ne_nil hfirst second
  rcases document.last_cases with hlast | ⟨front, last, rfl⟩
  · rw [pushText_of_last hlast hfirst, pushText_of_last hlast hboth,
      pushText_concat_text document first hsecond]
  · rw [pushText_concat_text front last hfirst, pushText_concat_text front last hboth,
      pushText_concat_text front (last ++ first) hsecond, List.append_assoc]

/-- Adding a text one character at a time is adding the text. -/
theorem foldl_push_symbols (document : Document) (text : Text) :
    ((Text.symbols text).map Symbol.segment).foldl push document = document.pushText text := by
  induction text generalizing document with
  | nil => exact (pushText_nil document).symm
  | cons c rest ih =>
    show ((Text.symbols rest).map Symbol.segment).foldl push (document.pushText [c]) = _
    rw [ih, pushText_pushText]
    rfl

/-- A document in normal form is given by what it holds. -/
theorem ofSymbols_symbols (h : document.IsNormal) : ofSymbols document.symbols = document := by
  induction document using List.reverseRecOn with
  | nil => rfl
  | append_singleton front last ih =>
    have hfront := ih h.of_append
    rw [ofSymbols] at hfront
    rw [ofSymbols, symbols_append, List.map_append, List.foldl_append, hfront]
    cases last with
    | text text =>
      -- no text stands before it, so it becomes a piece of its own again
      have hfilled : text ≠ [] := h.filled text (by simp)
      have hsame : symbols [.text text] = Text.symbols text := List.append_nil _
      rw [hsame, foldl_push_symbols, pushText_of_last h.not_text_of_concat hfilled]
    | mark mark => rfl

end Document

end JvmSource
