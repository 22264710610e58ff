import Mathlib.Data.List.Infix
import Mathlib.Tactic.Common
import JvmSource.Proofs.Layout.Growth
import JvmSource.Proofs.Layout.Braces
import JvmSource.Proofs.Layout.Unended
import JvmSource.Proofs.Text.Pieces
import JvmSource.Proofs.Text.Trim

/-!
# Text in several calls

A text may be printed at once or cut in two. It makes no difference where it is cut, unless a
carriage return stands before the cut: the one at the end of what is printed is dropped, although
the line may go on. If the line then ends with nothing but white space after the cut, the carriage
return is at its end and is dropped in any case (`print_print_iff`). So it makes no difference
either whether the lines of a printed text end with line feeds or with carriage returns and line
feeds.
-/

namespace JvmSource

namespace Text

/-- A text with a carriage return before each line feed. -/
def withReturns (text : Text) : Text := text.flatMap fun c => if c = '\n' then ['\r', '\n'] else [c]

/-- Pieces with a carriage return at the end of each but the last. -/
def endReturns : List Text → List Text
  | [] => []
  | [last] => [last]
  | piece :: pieces => (piece ++ ['\r']) :: endReturns pieces

/-- A piece that is not the last one gets a carriage return at its end. -/
theorem endReturns_cons {pieces : List Text} (h : pieces ≠ []) (piece : Text) :
    endReturns (piece :: pieces) = (piece ++ ['\r']) :: endReturns pieces := by
  cases pieces with
  | nil => exact absurd rfl h
  | cons next pieces => rfl

/-- Splitting a text with carriage returns gives its pieces with a carriage return at the end of
each but the last. -/
theorem split_withReturns (text : Text) :
    split '\n' (withReturns text) = endReturns (split '\n' text) := by
  induction text with
  | nil => rfl
  | cons c text ih =>
    obtain ⟨piece, pieces, hpieces⟩ := List.exists_cons_of_ne_nil (split_ne_nil '\n' text)
    rw [withReturns, List.flatMap_cons, ← withReturns, split]
    by_cases hc : c = '\n'
    · rw [if_pos hc, if_pos hc, endReturns_cons (split_ne_nil '\n' text), ← ih]
      rfl
    · rw [if_neg hc, if_neg hc, List.singleton_append, split, if_neg hc, ih, hpieces]
      cases pieces with
      | nil => rfl
      | cons next pieces => rfl

end Text

namespace Layout

open Text (dense)
open Unicode (isBlank)

variable {layout : Layout} {first second text after : Text}

/-! ## The line that goes on -/

/-- The layout whose line goes on with a text. -/
def put (layout : Layout) (text : Text) : Layout :=
  { layout with line := layout.line.pushText text }

/-- Putting two texts is putting them as one. -/
theorem put_put (layout : Layout) (first second : Text) :
    (layout.put first).put second = layout.put (first ++ second) := by
  rw [put, put, Document.pushText_pushText, put]

/-- A text that is put goes to the end of the line that has been begun. -/
theorem text_put (layout : Layout) (text : Text) :
    (layout.put text).line.text = layout.line.text ++ text :=
  Document.text_pushText layout.line text

/-- Different texts that are put make a difference. -/
theorem put_inj (h : layout.put first = layout.put second) : first = second := by
  have hline := congrArg (·.line.text) h
  simp only [text_put] at hline
  exact List.append_cancel_left hline

theorem dropReturn_concat (text : Text) : dropReturn (text ++ ['\r']) = text := by
  have hsuffix : ['\r'].isSuffixOf? (text ++ ['\r']) = some text :=
    List.isSuffixOf?_eq_some_iff_append_eq.mpr rfl
  rw [dropReturn, hsuffix, Option.getD_some]

/-- A text that does not end with a carriage return loses nothing. -/
theorem dropReturn_of_not_suffix (h : ¬ ['\r'] <:+ text) : dropReturn text = text := by
  have hnone : ['\r'].isSuffixOf? text = none := by
    rw [Option.eq_none_iff_forall_ne_some]
    intro front hfront
    exact h ⟨front, List.isSuffixOf?_eq_some_iff_append_eq.mp hfront⟩
  rw [dropReturn, hnone, Option.getD_none]

/-- Only the end of a text loses a carriage return. -/
theorem dropReturn_append (first : Text) (h : second ≠ []) :
    dropReturn (first ++ second) = first ++ dropReturn second := by
  rcases List.eq_nil_or_concat second with rfl | ⟨front, c, rfl⟩
  · exact absurd rfl h
  rw [List.concat_eq_append, ← List.append_assoc]
  by_cases hc : c = '\r'
  · rw [hc, dropReturn_concat, dropReturn_concat]
  · have hne : ∀ text : Text, ¬ ['\r'] <:+ text ++ [c] := by
      rintro text ⟨rest, hrest⟩
      exact hc (List.singleton_inj.mp (List.append_inj' hrest rfl).2).symm
    rw [dropReturn_of_not_suffix (hne _), dropReturn_of_not_suffix (hne _), List.append_assoc]

/-! ## The end of the line -/

/-- White space in a line makes no difference to its depth. -/
theorem lineDepth_congr {line line' : Text} (h : dense line = dense line') (depth : Nat) :
    lineDepth depth line = lineDepth depth line' := by
  rw [lineDepth, lineDepth, Text.head?_trim, Text.head?_trim, h]

/-- White space in a line makes no difference to the depth after it. -/
theorem nextDepth_congr {line line' : Text} (h : dense line = dense line') (depth : Nat) :
    nextDepth depth line = nextDepth depth line' := by
  rw [nextDepth, nextDepth, Text.getLast?_trim, Text.getLast?_trim, h]

/-- Text brings no mark into a line. -/
theorem any_mark_pushText (line : Document) (text : Text) :
    (line.pushText text).symbols.any Symbol.isMark = line.symbols.any Symbol.isMark := by
  have htext : (Text.symbols text).any Symbol.isMark = false := by
    simp [Text.symbols, Symbol.isMark]
  rw [Document.symbols_pushText, List.any_append, htext, Bool.or_false]

/-- A line is blank after a text has been put if it has no mark, and neither it nor the text has a
character. -/
theorem isBlankLine_put_iff (layout : Layout) (text : Text) :
    isBlankLine (layout.put text).line = true ↔
      layout.line.symbols.any Symbol.isMark = false ∧ dense (layout.line.text ++ text) = [] := by
  rw [isBlankLine_iff, text_symbols, text_put, put, any_mark_pushText,
    ← List.head?_eq_none_iff, Text.head?_trim, List.head?_eq_none_iff]

/-- A line with no text at its end stays as it is. -/
theorem trimLine_of_last {line : Document} (h : ∀ last, line.getLast? ≠ some (.text last)) :
    trimLine line = line := by
  rcases List.eq_nil_or_concat line with rfl | ⟨front, segment, rfl⟩
  · rfl
  rw [List.concat_eq_append] at h ⊢
  cases segment with
  | text last => exact absurd (by simp) (h last)
  | mark mark => rw [trimLine_concat]; rfl

/-- White space after a line is not laid out. -/
theorem foldl_push_trimLine (hafter : ∀ c ∈ after, isBlank c = true) (line document : Document)
    (text : Text) :
    (trimLine (line.pushText (text ++ after))).foldl Document.push document =
      (trimLine (line.pushText text)).foldl Document.push document := by
  by_cases hnone : after = []
  · rw [hnone, List.append_nil]
  have hne : text ++ after ≠ [] := List.append_ne_nil_of_right_ne_nil text hnone
  rcases line.last_cases with hlast | ⟨front, last, rfl⟩
  -- text starts a piece of its own behind a marker, and goes on with the last piece otherwise
  · rw [Document.pushText_of_last hlast hne, trimLine_concat]
    by_cases htext : text = []
    · -- the white space is a piece of its own, of which nothing is left
      have hgone : trimLine [.text after] = [Segment.text []] := by
        rw [trimLine, ← List.nil_append after, Text.trimEnd_append_of_blank hafter]
        rfl
      rw [htext, List.nil_append, hgone, Document.pushText_nil, trimLine_of_last hlast,
        List.foldl_append]
      exact Document.pushText_nil _
    · rw [Document.pushText_of_last hlast htext, trimLine_concat, trimLine, trimLine,
        Text.trimEnd_append_of_blank hafter]
  · have hsame : trimLine (Document.pushText (front ++ [.text last]) text) =
        front ++ [Segment.text (Text.trimEnd (last ++ text))] := by
      by_cases htext : text = []
      · rw [htext, Document.pushText_nil, List.append_nil, trimLine_concat, trimLine]
      · rw [Document.pushText_concat_text front last htext, trimLine_concat, trimLine]
    rw [hsame, Document.pushText_concat_text front last hne, trimLine_concat, trimLine,
      ← List.append_assoc, Text.trimEnd_append_of_blank hafter]

/-- White space after a line is dropped with its end. -/
theorem endLine_put_of_blank (layout : Layout) (text : Text)
    (hafter : ∀ c ∈ after, isBlank c = true) :
    (layout.put (text ++ after)).endLine = (layout.put text).endLine := by
  have hdense : dense (layout.put (text ++ after)).line.text = dense (layout.put text).line.text := by
    rw [text_put, text_put, Text.dense_append, Text.dense_append, Text.dense_append,
      Text.dense_of_blank hafter, List.append_nil]
  have hblank : isBlankLine (layout.put (text ++ after)).line = isBlankLine (layout.put text).line := by
    rw [Bool.eq_iff_iff, isBlankLine_put_iff, isBlankLine_put_iff, ← text_put, ← text_put, hdense]
  unfold endLine
  simp only [hblank, lineDepth_congr hdense, nextDepth_congr hdense]
  simp only [put, foldl_push_trimLine hafter]
  rfl

/-- What is laid out for a line that goes on with more than white space. -/
theorem text_endLine_put (layout : Layout) (htext : ∃ c ∈ text, isBlank c = false) :
    (layout.put text).endLine.document.text = layout.document.text ++
      (Text.times (lineDepth layout.depth (layout.line.text ++ text)) layout.indent ++
        (layout.line.text ++ Text.trimEnd text) ++ layout.newline) := by
  obtain ⟨c, hmem, hc⟩ := htext
  have hfilled : ¬ isBlankLine (layout.put text).line = true := by
    rw [isBlankLine_put_iff]
    rintro ⟨-, hdense⟩
    have hkept : c ∈ dense (layout.line.text ++ text) :=
      List.mem_filter.mpr ⟨List.mem_append_right _ hmem, by simp [hc]⟩
    rw [hdense] at hkept
    exact absurd hkept List.not_mem_nil
  have hne : text ≠ [] := List.ne_nil_of_mem hmem
  have htrim : Document.text (trimLine (layout.line.pushText text)) =
      layout.line.text ++ Text.trimEnd text := by
    simp only [Document.text_eq_symbols]
    -- the text goes on with the last segment of the line if that is text, and starts one otherwise
    rcases layout.line.last_cases with hlast | ⟨front, last, hline⟩
    · rw [Document.pushText_of_last hlast hne, trimLine_concat, Document.symbols_append,
        List.flatMap_append, trimLine, ← Document.text_eq_symbols [_], Document.text_singleton]
    · rw [hline, Document.pushText_concat_text front last hne, trimLine_concat,
        Document.symbols_append, Document.symbols_append, List.flatMap_append, List.flatMap_append,
        trimLine, ← Document.text_eq_symbols [_], Document.text_singleton,
        ← Document.text_eq_symbols [_], Document.text_singleton,
        Text.trimEnd_append_of_mem hmem hc, List.append_assoc]
  rw [text_endLine, lineText, if_neg hfilled, text_put]
  show layout.document.text ++ (Text.times _ layout.indent ++
    Document.text (trimLine (layout.line.pushText text)) ++ layout.newline) = _
  rw [htrim]
  rfl

/-! ## Lines after each other -/

/-- Writes lines and ends each of them. -/
def endLines (layout : Layout) (lines : List Text) : Layout :=
  lines.foldl (fun layout line => (layout.add line).endLine) layout

/-- Printing lines prints the first one, ends it and goes on with the others. -/
theorem printLines_cons (layout : Layout) (line : Text) {lines : List Text} (h : lines ≠ []) :
    layout.printLines (line :: lines) = (layout.add line).endLine.printLines lines := by
  cases lines with
  | nil => exact absurd rfl h
  | cons next lines => rw [printLines]; simp

/-- Printing lines ends those in front and goes on with the others. -/
theorem printLines_append (layout : Layout) (front : List Text) {lines : List Text}
    (h : lines ≠ []) :
    layout.printLines (front ++ lines) = (layout.endLines front).printLines lines := by
  induction front generalizing layout with
  | nil => rfl
  | cons line front ih =>
    rw [List.cons_append, printLines_cons _ _ (List.append_ne_nil_of_right_ne_nil front h), ih]
    rfl

/-- What lines add to the document does not depend on what is there. -/
theorem exists_added (layout : Layout) (lines : List Text) :
    ∃ added, ∀ document : Document,
      ({ layout with document }.printLines lines).document.text = document.text ++ added := by
  induction lines generalizing layout with
  | nil => exact ⟨[], fun document => (List.append_nil _).symm⟩
  | cons line lines ih =>
    by_cases hlines : lines = []
    · exact ⟨[], fun document => by rw [hlines, List.append_nil]; rfl⟩
    · obtain ⟨added, hadded⟩ := ih (layout.add line).endLine
      refine ⟨(layout.add line).lineText ++ layout.newline ++ added, fun document => ?_⟩
      have hline := text_endLine ({ layout with document }.add line)
      have hrest := hadded ({ layout with document }.add line).endLine.document
      rw [hline, List.append_assoc] at hrest
      rw [printLines_cons _ _ hlines]
      exact hrest

/-- Text that has been laid out differently stays different. -/
theorem printLines_endLine_put_ne (layout : Layout) (lines : List Text) {returns : Text}
    (hreturns : returns ≠ []) (hblank : ∀ c ∈ returns, isBlank c = true)
    (hsecond : ∃ c ∈ second, isBlank c = false) (first : Text) :
    (layout.put (first ++ second)).endLine.printLines lines ≠
      (layout.put (first ++ returns ++ second)).endLine.printLines lines := by
  obtain ⟨c, hmem, hc⟩ := hsecond
  have hdense : dense (layout.line.text ++ (first ++ second)) =
      dense (layout.line.text ++ (first ++ returns ++ second)) := by
    simp only [Text.dense_append, Text.dense_of_blank hblank, List.append_nil]
  have hshort := text_endLine_put layout ⟨c, List.mem_append_right first hmem, hc⟩
  have hlong := text_endLine_put layout ⟨c, List.mem_append_right (first ++ returns) hmem, hc⟩
  rw [Text.trimEnd_append_of_mem hmem hc] at hshort hlong
  rw [← lineDepth_congr hdense] at hlong
  -- from there on the two differ in their documents only
  have hdocument : (layout.put (first ++ second)).endLine =
      { (layout.put (first ++ returns ++ second)).endLine with
        document := (layout.put (first ++ second)).endLine.document } := by
    unfold endLine
    simp only [text_put, lineDepth_congr hdense, nextDepth_congr hdense]
    rfl
  generalize (layout.put (first ++ second)).endLine = short at hdocument hshort ⊢
  generalize (layout.put (first ++ returns ++ second)).endLine = long at hdocument hlong ⊢
  obtain ⟨added, hadded⟩ := exists_added long lines
  intro hsame
  have htext : short.document.text ++ added = long.document.text ++ added := by
    rw [← hadded short.document, ← hadded long.document, ← hdocument, hsame]
  have hlength := congrArg List.length (List.append_cancel_right htext)
  rw [hshort, hlong] at hlength
  simp only [List.length_append] at hlength
  have hpositive : 0 < returns.length := List.length_pos_iff.mpr hreturns
  omega

/-! ## The cut -/

/-- A line may be printed in two parts, if adding them is adding the line. -/
theorem printLines_cut {last next : Text}
    (h : (layout.add last).add next = layout.add (last ++ next)) (lines : List Text) :
    (layout.add last).printLines (next :: lines) = layout.printLines ((last ++ next) :: lines) := by
  by_cases hlines : lines = []
  · rw [hlines]
    exact h
  · rw [printLines_cons _ _ hlines, printLines_cons _ _ hlines, h]

/-- Nothing is lost if there is no carriage return before the cut, or nothing after it. -/
theorem add_add {last next : Text} (h : ['\r'] <:+ last → next = []) (layout : Layout) :
    (layout.add last).add next = layout.add (last ++ next) := by
  show (layout.put (dropReturn last)).put (dropReturn next) = layout.put (dropReturn (last ++ next))
  rw [put_put]
  by_cases hnext : next = []
  · rw [hnext, List.append_nil]
    exact congrArg layout.put (List.append_nil _)
  · rw [dropReturn_append last hnext, dropReturn_of_not_suffix fun hreturn => hnext (h hreturn)]

/-- A carriage return before the cut is part of the line that goes on, and is lost if there is more
in the line than white space, or if the line does not end. -/
theorem printLines_cut_return_iff (layout : Layout) (front : Text) {next : Text} (hnext : next ≠ [])
    (lines : List Text) :
    (layout.add (front ++ ['\r'])).printLines (next :: lines) =
        layout.printLines ((front ++ ['\r'] ++ next) :: lines) ↔
      lines ≠ [] ∧ ∀ c ∈ next, isBlank c = true := by
  -- the part in front of the cut loses its carriage return, and the whole line keeps it
  have hcut : (layout.add (front ++ ['\r'])).add next = layout.put (front ++ dropReturn next) := by
    show (layout.put (dropReturn (front ++ ['\r']))).put (dropReturn next) = _
    rw [put_put, dropReturn_concat]
  have hwhole : layout.add (front ++ ['\r'] ++ next) =
      layout.put (front ++ ['\r'] ++ dropReturn next) := by
    rw [← dropReturn_append _ hnext]
    rfl
  by_cases hlines : lines = []
  · -- a line that does not end is compared as it is
    refine iff_of_false (fun hsame => ?_) fun h => h.1 hlines
    rw [hlines] at hsame
    have htexts := put_inj (hcut.symm.trans (hsame.trans hwhole))
    simpa using congrArg List.length htexts
  rw [printLines_cons _ _ hlines, printLines_cons _ _ hlines, hcut, hwhole]
  obtain ⟨gone, hgone, hsplit⟩ := exists_dropReturn next
  by_cases hblank : ∀ c ∈ next, isBlank c = true
  · -- all that comes after the cut is dropped with the end of the line
    have hrest : ∀ c ∈ dropReturn next, isBlank c = true := fun c hc =>
      hblank c (hsplit ▸ List.mem_append_left gone hc)
    have hreturn : ∀ c ∈ '\r' :: dropReturn next, isBlank c = true :=
      List.forall_mem_cons.mpr ⟨by decide, hrest⟩
    rw [List.append_assoc, endLine_put_of_blank layout front hrest, List.singleton_append,
      endLine_put_of_blank layout front hreturn]
    exact iff_of_true rfl ⟨hlines, hblank⟩
  · have hfilled : ∃ c ∈ dropReturn next, isBlank c = false := by
      by_contra hnone
      refine hblank fun c hc => ?_
      rw [hsplit] at hc
      rcases List.mem_append.mp hc with hc | hc
      · exact Bool.of_not_eq_false fun h => hnone ⟨c, hc, h⟩
      · exact hgone c hc
    refine iff_of_false ?_ fun h => hblank h.2
    have hreturn : ∀ c ∈ ['\r'], isBlank c = true := by
      intro c hc
      rw [List.mem_singleton.mp hc]
      decide
    exact printLines_endLine_put_ne layout lines (by simp) hreturn hfilled front

/-- A text ends with a carriage return if its last line does. -/
theorem return_suffix_iff {front : List Text} {last : Text}
    (hsplit : Text.split '\n' text = front ++ [last]) : ['\r'] <:+ text ↔ ['\r'] <:+ last := by
  have hsuffix : ∀ text : Text, ['\r'] <:+ text ↔ text.getLast? = some '\r' := by
    intro text
    rw [List.getLast?_eq_some_iff]
    exact exists_congr fun rest => eq_comm
  have htext := Text.flatMap_split '\n' text
  rw [hsplit, List.flatMap_append, List.flatMap_singleton, ← List.append_assoc] at htext
  rw [← List.append_cancel_right htext, hsuffix, hsuffix]
  rcases List.eq_nil_or_concat last with rfl | ⟨rest, c, rfl⟩
  · -- a line before an empty last line ends with its line feed
    rcases @Text.flatMap_bounded '\n' front with hnone | ⟨others, hothers⟩
    · rw [hnone, List.append_nil]
    · rw [hothers]
      simp
  · simp

/-- The first line of a text is blank and ends if the text starts with white space and a line
feed. -/
theorem first_line_blank_iff {next : Text} {lines : List Text}
    (hsplit : Text.split '\n' text = next :: lines) :
    (lines ≠ [] ∧ ∀ c ∈ next, isBlank c = true) ↔
      ∃ blank rest, text = blank ++ '\n' :: rest ∧ ∀ c ∈ blank, isBlank c = true := by
  constructor
  · rintro ⟨hlines, hblank⟩
    have htext := Text.flatMap_split '\n' text
    rw [hsplit, ← List.dropLast_append_getLast hlines, List.flatMap_cons, List.flatMap_append,
      List.flatMap_singleton, ← List.append_assoc, ← List.append_assoc] at htext
    refine ⟨next, lines.dropLast.flatMap (· ++ ['\n']) ++ lines.getLast hlines, ?_, hblank⟩
    rw [← List.append_cancel_right htext]
    simp only [List.append_assoc, List.cons_append, List.nil_append]
  · rintro ⟨blank, rest, rfl, hblank⟩
    obtain ⟨first, others, hothers⟩ :=
      List.exists_cons_of_ne_nil (Text.split_ne_nil '\n' blank)
    rw [Text.split_append_separator, hothers, List.cons_append] at hsplit
    obtain ⟨rfl, rfl⟩ := List.cons.inj hsplit
    refine ⟨List.append_ne_nil_of_right_ne_nil _ (Text.split_ne_nil '\n' rest), fun c hc => ?_⟩
    exact hblank c ((Text.prefix_of_split hothers).subset hc)

/-- Carriage returns before line feeds make no difference to what is printed. -/
theorem print_withReturns (layout : Layout) (text : Text) :
    layout.print (Text.withReturns text) = layout.print text := by
  rw [print, print, Text.split_withReturns]
  generalize Text.split '\n' text = lines
  induction lines generalizing layout with
  | nil => rfl
  | cons line lines ih =>
    by_cases hlines : lines = []
    · rw [hlines]
      rfl
    · -- what is left of a carriage return is dropped with the end of the line
      obtain ⟨gone, hgone, hsplit⟩ := exists_dropReturn line
      have hline : (layout.add (line ++ ['\r'])).endLine = (layout.add line).endLine := by
        show (layout.put (dropReturn (line ++ ['\r']))).endLine = _
        rw [dropReturn_concat, hsplit, endLine_put_of_blank layout _ hgone, ← hsplit]
        rfl
      have hreturns : Text.endReturns lines ≠ [] := by
        obtain ⟨next, others, rfl⟩ := List.exists_cons_of_ne_nil hlines
        cases others <;> simp [Text.endReturns]
      rw [Text.endReturns_cons hlines, printLines_cons _ _ hreturns, printLines_cons _ _ hlines,
        hline, ih]

/-- It makes no difference whether a text is printed at once or cut in two, exactly if there is no
carriage return before the cut, or nothing after it, or nothing but white space before the next line
feed. And it makes no difference whether there are carriage returns before the line feeds of a
text. -/
theorem print_print_iff (layout : Layout) (first second : Text) :
    ((layout.print first).print second = layout.print (first ++ second) ↔
      (['\r'] <:+ first → second = [] ∨
        ∃ blank rest, second = blank ++ '\n' :: rest ∧ ∀ c ∈ blank, isBlank c = true)) ∧
    ∀ text, layout.print (Text.withReturns text) = layout.print text := by
  refine ⟨?_, print_withReturns layout⟩
  -- the cut lies in the last line of the first text, which the first line of the second goes on with
  obtain ⟨front, last, hfirst⟩ : ∃ front last, Text.split '\n' first = front ++ [last] :=
    ⟨_, _, (List.dropLast_append_getLast (Text.split_ne_nil '\n' first)).symm⟩
  obtain ⟨next, lines, hsecond⟩ := List.exists_cons_of_ne_nil (Text.split_ne_nil '\n' second)
  have hcut : (layout.print first).print second =
      ((layout.endLines front).add last).printLines (next :: lines) := by
    rw [print, print, hfirst, hsecond, printLines_append _ _ (by simp)]
    rfl
  have hwhole : layout.print (first ++ second) =
      (layout.endLines front).printLines ((last ++ next) :: lines) := by
    rw [print, Text.split_append, hfirst, hsecond, Text.joinEnds_concat,
      printLines_append _ _ (by simp)]
  rw [hcut, hwhole, return_suffix_iff hfirst, ← first_line_blank_iff hsecond]
  by_cases hlost : ['\r'] <:+ last ∧ next ≠ []
  · obtain ⟨⟨rest, rfl⟩, hnext⟩ := hlost
    have hfilled : second ≠ [] := by
      rintro rfl
      exact hnext (List.cons.inj hsecond).1.symm
    rw [printLines_cut_return_iff _ rest hnext]
    exact ⟨fun h _ => Or.inr h, fun h => (h ⟨rest, rfl⟩).resolve_left hfilled⟩
  · have hkept : ['\r'] <:+ last → next = [] := fun hreturn =>
      not_not.mp fun hnext => hlost ⟨hreturn, hnext⟩
    refine iff_of_true (printLines_cut (add_add hkept _) lines) fun hreturn => ?_
    rw [hkept hreturn] at hsecond ⊢
    by_cases hlines : lines = []
    · rw [hlines] at hsecond
      have htext := Text.flatMap_split '\n' second
      rw [hsecond] at htext
      exact Or.inl (List.append_cancel_right htext).symm
    · exact Or.inr ⟨hlines, by simp⟩

/-- The carriage return at the end of a text is lost, although the line goes on. -/
theorem return_lost :
    let layout : Layout := { indent := "    ".toList, newline := ['\n'] }
    (layout.print "a\r".toList).print "b".toList ≠ layout.print ("a\r".toList ++ "b".toList) ∧
      ((layout.print "a\r".toList).print "b".toList).finish.text = "ab".toList ∧
      (layout.print ("a\r".toList ++ "b".toList)).finish.text = "a\rb".toList := by
  refine ⟨fun hsame => ?_, by decide, by decide⟩
  exact absurd (congrArg (·.line) hsame) (by decide)

end Layout

end JvmSource
