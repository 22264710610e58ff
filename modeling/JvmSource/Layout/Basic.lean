import JvmSource.Layout.Document

/-!
# Layout by braces

Text is laid out line by line. A line that starts with a closing brace lies one level less deep than
the line before it, and a line that ends with an opening brace starts a deeper level. Each line is
indented by its depth, blank lines are left empty, and white space at the end of a line is dropped.
-/

namespace JvmSource

/-- A document in the making: what is laid out, and the line that has not ended yet. -/
structure Layout where
  /-- One level of indentation. -/
  indent : Text
  newline : Text
  depth : Nat := 0
  line : Document := []
  document : Document := []

namespace Layout

/-- The depth at which a line with the given text lies. -/
def lineDepth (depth : Nat) (line : Text) : Nat :=
  if (Text.trim line).head? = some '}' then depth - 1 else depth

/-- The depth after a line with the given text that lies at a depth. -/
def nextDepth (depth : Nat) (line : Text) : Nat :=
  if (Text.trim line).getLast? = some '{' then depth + 1 else depth

/-- A line without the white space at its end. -/
def trimLine : Document → Document
  | [] => []
  | [.text text] => [.text (Text.trimEnd text)]
  | segment :: rest => segment :: trimLine rest

/-- Whether nothing is written for a line but its end. -/
def isBlankLine (line : Document) : Bool :=
  (Text.trim line.text).isEmpty && !line.any fun
    | .mark _ => true
    | .text _ => false

/-- Ends the current line. -/
def endLine (layout : Layout) : Layout :=
  let text := layout.line.text
  let depth := lineDepth layout.depth text
  let document :=
    if isBlankLine layout.line then layout.document
    else
      (trimLine layout.line).foldl Document.push
        (layout.document.pushText (Text.times depth layout.indent))
  { layout with
    depth := nextDepth depth text
    line := []
    document := document.pushText layout.newline }

/-- Removes a carriage return from the end of a piece of text. -/
def dropReturn (text : Text) : Text := (['\r'].isSuffixOf? text).getD text

/-- Adds text to the current line. -/
def add (layout : Layout) (text : Text) : Layout :=
  { layout with line := layout.line.pushText (dropReturn text) }

/-- Writes pieces of text with line ends between them. -/
def printLines : Layout → List Text → Layout
  | layout, [] => layout
  | layout, [last] => layout.add last
  | layout, line :: lines => printLines (layout.add line).endLine lines

/-- Writes text that may hold line ends. -/
def print (layout : Layout) (text : Text) : Layout := layout.printLines (Text.split '\n' text)

/-- Writes text and ends the line. -/
def println (layout : Layout) (text : Text) : Layout := (layout.print text).endLine

/-- Places a mark in the current line. -/
def mark (layout : Layout) (mark : Mark) : Layout :=
  { layout with line := layout.line.pushMark mark }

/-- The document, with a line that has not ended at its end. -/
def finish (layout : Layout) : Document :=
  if layout.line.isEmpty then layout.document
  else
    layout.line.foldl Document.push
      (layout.document.pushText (Text.times layout.depth layout.indent))

end Layout

end JvmSource
