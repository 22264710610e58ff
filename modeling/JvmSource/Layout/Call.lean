import JvmSource.Layout.Basic

/-!
# Calls to a layout as data

A document is the result of a sequence of calls to a layout, so what a sequence of calls writes can
be said of the calls themselves.
-/

namespace JvmSource

/-- One call to a layout. -/
inductive LayoutCall where
  | print (text : Text)
  | println (text : Text)
  | mark (mark : Mark)
  | endLine
deriving DecidableEq, Repr

namespace Layout

/-- Performs a call. -/
def perform (layout : Layout) : LayoutCall → Layout
  | .print text => layout.print text
  | .println text => layout.println text
  | .mark mark => layout.mark mark
  | .endLine => layout.endLine

/-- Performs calls in order. -/
def run (layout : Layout) (calls : List LayoutCall) : Layout := calls.foldl perform layout

end Layout

end JvmSource
