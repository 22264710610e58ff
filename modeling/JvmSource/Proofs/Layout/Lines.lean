import Mathlib.Data.List.Basic
import Mathlib.Tactic.Common
import JvmSource.Proofs.Layout.Growth
import JvmSource.Proofs.Text.Trim

/-!
# Lines as they are laid out

At the start of a line, printing a text and ending the line adds the lines of the text one by one,
each indented by its depth and without the white space at its end. `goneOn_println` says which text
is added: it depends on the text, the indentation and the depth only.
-/

namespace JvmSource.Layout

/-- A line of text as it is laid out at a depth. -/
def laidLine (indent : Text) (depth : Nat) (line : Text) : Text :=
  if (Text.trim line).isEmpty then []
  else Text.times (lineDepth depth line) indent ++ Text.trimEnd line

/-- The depth at which the line after a line starts. -/
def depthAfter (depth : Nat) (line : Text) : Nat := nextDepth (lineDepth depth line) line

/-- Lines of text as they are laid out from a depth on, each with its depth. -/
def laidLines (indent : Text) : (depth : Nat) → List Text → List Text
  | _, [] => []
  | depth, line :: lines =>
    laidLine indent depth line :: laidLines indent (depthAfter depth line) lines

/-- The depth after some lines. -/
def depthAfterAll : (depth : Nat) → List Text → Nat
  | depth, [] => depth
  | depth, line :: lines => depthAfterAll (depthAfter depth line) lines

/-- The lines of a text, without carriage returns at their ends. -/
def linesOf (text : Text) : List Text := (Text.split '\n' text).map dropReturn

/-- Lines with an end after each. -/
def joinLines (newline : Text) (lines : List Text) : Text := lines.flatMap (· ++ newline)

/-- Whether one layout has gone on from another by a text, and stands at the start of a line. -/
structure GoneOn (before after : Layout) (text : Text) (depth : Nat) : Prop where
  line : after.line = []
  text : after.document.text = before.document.text ++ text
  depth : after.depth = depth
  indent : after.indent = before.indent
  newline : after.newline = before.newline

/-- A layout that has gone on twice has gone on by both texts. -/
theorem GoneOn.trans {a b c : Layout} {first second : Text} {depth depth' : Nat}
    (h : a.GoneOn b first depth) (h' : b.GoneOn c second depth') :
    a.GoneOn c (first ++ second) depth' where
  line := h'.line
  text := by rw [h'.text, h.text, List.append_assoc]
  depth := h'.depth
  indent := h'.indent.trans h.indent
  newline := h'.newline.trans h.newline

variable {layout : Layout}

theorem joinLines_cons (newline first : Text) (rest : List Text) :
    joinLines newline (first :: rest) = first ++ (newline ++ joinLines newline rest) := by
  rw [joinLines, List.flatMap_cons, List.append_assoc]
  rfl

theorem lineText_of_line {text : Text} (h : layout.line = Document.pushText [] text) :
    layout.lineText = laidLine layout.indent layout.depth text := by
  cases text with
  | nil =>
    have hblank : isBlankLine layout.line = true := by rw [h]; decide
    rw [lineText, if_pos hblank]
    rfl
  | cons c rest =>
    have hline : layout.line = [.text (c :: rest)] := h
    rw [lineText, laidLine, hline, trimLine, Document.text_singleton, Document.text_singleton]
    simp [isBlankLine, Document.text_singleton]

/-- A line at whose start nothing stood is laid out by itself. -/
theorem goneOn_endLine {text : Text} (h : layout.line = Document.pushText [] text) :
    layout.GoneOn layout.endLine (laidLine layout.indent layout.depth text ++ layout.newline)
      (depthAfter layout.depth text) where
  line := rfl
  text := by rw [text_endLine, lineText_of_line h]
  depth := by
    have htext : layout.line.text = text := by
      rw [h, Document.text_pushText]
      rfl
    show nextDepth (lineDepth layout.depth layout.line.text) layout.line.text = _
    rw [htext]
    rfl
  indent := rfl
  newline := rfl

/-- Adding a text to an empty line and ending it lays out the text as one line. -/
theorem goneOn_add_endLine (h : layout.line = []) (text : Text) :
    layout.GoneOn (layout.add text).endLine
      (laidLine layout.indent layout.depth (dropReturn text) ++ layout.newline)
      (depthAfter layout.depth (dropReturn text)) := by
  have hline : (layout.add text).line = Document.pushText [] (dropReturn text) := by
    show layout.line.pushText (dropReturn text) = _
    rw [h]
  have hend := goneOn_endLine hline
  exact ⟨hend.line, hend.text, hend.depth, hend.indent, hend.newline⟩

/-- Printing lines at the start of a line lays out each of them. -/
theorem goneOn_printLines (h : layout.line = []) {lines : List Text} (hlines : lines ≠ []) :
    layout.GoneOn (layout.printLines lines).endLine
      (joinLines layout.newline (laidLines layout.indent layout.depth (lines.map dropReturn)))
      (depthAfterAll layout.depth (lines.map dropReturn)) := by
  induction lines generalizing layout with
  | nil => exact absurd rfl hlines
  | cons line lines ih =>
    have hfirst := goneOn_add_endLine h line
    cases lines with
    | nil =>
      have hsame : joinLines layout.newline (laidLines layout.indent layout.depth
          ([line].map dropReturn)) =
          laidLine layout.indent layout.depth (dropReturn line) ++ layout.newline :=
        List.append_nil _
      rw [hsame]
      exact hfirst
    | cons next lines =>
      -- the next line starts where the first one has ended
      have hrest := ih hfirst.line (by simp)
      have hprint : layout.printLines (line :: next :: lines) =
          (layout.add line).endLine.printLines (next :: lines) := by
        rw [printLines]
        simp
      rw [hfirst.depth, hfirst.indent, hfirst.newline] at hrest
      rw [hprint]
      exact hfirst.trans hrest

/-- Printing a text at the start of a line adds its lines as they are laid out. -/
theorem goneOn_println (h : layout.line = []) (text : Text) :
    layout.GoneOn (layout.println text)
      (joinLines layout.newline (laidLines layout.indent layout.depth (linesOf text)))
      (depthAfterAll layout.depth (linesOf text)) :=
  goneOn_printLines h (Text.split_ne_nil '\n' text)

/-! ## White space at the end of a line -/

variable {front : Text} {last : Char}

/-- Dropping a carriage return cuts off white space. -/
theorem exists_dropReturn (text : Text) :
    ∃ after : Text, (∀ c ∈ after, Unicode.isBlank c = true) ∧ text = dropReturn text ++ after := by
  unfold dropReturn
  cases h : ['\r'].isSuffixOf? text with
  | none => exact ⟨[], by simp, by simp⟩
  | some front =>
    have hblank : Unicode.isBlank '\r' = true := by decide
    refine ⟨['\r'], by simpa using hblank, ?_⟩
    exact (List.isSuffixOf?_eq_some_iff_append_eq.mp h).symm

theorem dropReturn_of_last (h : Unicode.isBlank last = false) :
    dropReturn (front ++ [last]) = front ++ [last] := by
  have hnone : ['\r'].isSuffixOf? (front ++ [last]) = none := by
    rw [Option.eq_none_iff_forall_ne_some]
    intro rest hrest
    have hsame := List.isSuffixOf?_eq_some_iff_append_eq.mp hrest
    have hlast : last = '\r' := (List.singleton_inj.mp (List.append_inj' hsame rfl).2).symm
    rw [hlast] at h
    exact absurd h (by decide)
  rw [dropReturn, hnone, Option.getD_none]

/-! ## Indentation and braces -/

theorem mem_of_mem_times {n : Nat} {c : Char} {text : Text} (h : c ∈ Text.times n text) :
    c ∈ text := by
  induction n with
  | zero => exact absurd h (by simp [Text.times])
  | succ n ih =>
    rw [Text.times] at h
    rcases List.mem_append.mp h with h | h
    · exact h
    · exact ih h

/-- A line that neither starts nor ends with a brace is laid out at its depth, which stays. -/
theorem goneOn_println_of_plain {layout : Layout} (hstart : layout.line = []) (text : Text)
    (hlines : linesOf text = [text]) (htrim : Text.trimEnd text = text)
    (hfirst : (Text.trim text).head?.any (· ≠ '}') = true)
    (hlast : (Text.trim text).getLast? ≠ some '{') :
    layout.GoneOn (layout.println text)
      (Text.times layout.depth layout.indent ++ text ++ layout.newline) layout.depth := by
  have hdepth : lineDepth layout.depth text = layout.depth := by
    apply if_neg
    intro hbrace
    simp [hbrace] at hfirst
  have hafter : depthAfter layout.depth text = layout.depth := by
    rw [depthAfter, hdepth]
    exact if_neg hlast
  have hfilled : (Text.trim text).isEmpty ≠ true := by
    intro hempty
    rw [List.isEmpty_iff.mp hempty] at hfirst
    exact absurd hfirst (by simp)
  have hgone := goneOn_println hstart text
  rw [hlines] at hgone
  simp only [laidLines, depthAfterAll, joinLines_cons, laidLine, if_neg hfilled, hdepth, htrim,
    hafter] at hgone
  have hnil : joinLines layout.newline [] = [] := rfl
  rw [hnil, List.append_nil] at hgone
  exact hgone

end JvmSource.Layout
