import JvmSource.Text.Basic

/-!
# Documents

A document is text with marks for the parts that are known only when the rest has been written.
Neighbouring pieces of text are one piece, and no piece is empty.
-/

namespace JvmSource

/-- A part of a document that is filled in at the end. -/
inductive Mark where
  | imports
  | serial
deriving DecidableEq, Repr

/-- A piece of a document. -/
inductive Segment where
  | text (text : Text)
  | mark (mark : Mark)
deriving DecidableEq, Repr

/-- Text with marks. -/
abbrev Document := List Segment

namespace Document

/-- Adds text at the end, to the last piece if that is text. -/
def pushText : Document → Text → Document
  | document, [] => document
  | [], text => [.text text]
  | [.text last], text => [.text (last ++ text)]
  | segment :: rest, text => segment :: pushText rest text

/-- Adds a mark at the end. -/
def pushMark (document : Document) (mark : Mark) : Document := document ++ [.mark mark]

/-- Adds a piece at the end. -/
def push (document : Document) : Segment → Document
  | .text text => document.pushText text
  | .mark mark => document.pushMark mark

/-- The text of a document with its marks filled in. -/
def render (fill : Mark → Text) : Document → Text
  | [] => []
  | .text text :: rest => text ++ render fill rest
  | .mark mark :: rest => fill mark ++ render fill rest

/-- The text of a document with its marks left out. -/
def text (document : Document) : Text := document.render fun _ => []

/-- Whether a mark occurs in a document. -/
def has (document : Document) (mark : Mark) : Bool := document.contains (.mark mark)

end Document

end JvmSource
