import Mathlib.Data.List.DropRight
import Mathlib.Tactic.Common
import JvmSource.Proofs.Layout.Comments
import JvmSource.Proofs.Layout.Content

/-!
# A last line that has not ended

A document may be complete although its last line has not ended. What is written for this line is
indented by the depth that the lines before it have led to, whatever it starts with, while a line
that ends is laid out one level less deep if it starts with a closing brace. White space at the end
of the document apart, that is the only difference: `finish_eq_ended_iff`.
-/

namespace JvmSource

namespace Text

/-- White space at the end makes no difference. -/
theorem trimEnd_append_of_blank {after : Text} (h : ∀ c ∈ after, Unicode.isBlank c = true)
    (text : Text) : trimEnd (text ++ after) = trimEnd text := by
  rw [trimEnd, List.reverse_append, List.dropWhile_append_of_pos, trimEnd]
  simpa using h

/-- Nothing is taken off what stands before a character that is not white space. -/
theorem trimEnd_append_of_mem {text : Text} {c : Char} (hmem : c ∈ text)
    (hc : Unicode.isBlank c = false) (front : Text) :
    trimEnd (front ++ text) = front ++ trimEnd text := by
  have hstop : (text.reverse.dropWhile Unicode.isBlank).isEmpty = false := by
    rw [List.isEmpty_eq_false_iff, Ne, List.dropWhile_eq_nil_iff]
    intro hblank
    have := hblank c (by simpa using hmem)
    simp [hc] at this
  rw [trimEnd, List.reverse_append, List.dropWhile_append, hstop, trimEnd]
  simp

/-- One time less makes a difference, unless there is nothing to be left out. -/
theorem times_pred_eq_iff {n : Nat} {text : Text} :
    times n text = times (n - 1) text ↔ n = 0 ∨ text = [] := by
  constructor
  · intro h
    have hlength := congrArg List.length h
    rw [length_times, length_times] at hlength
    cases n with
    | zero => exact Or.inl rfl
    | succ n =>
      rw [Nat.add_sub_cancel, Nat.succ_mul] at hlength
      exact Or.inr (List.length_eq_zero_iff.mp (by omega))
  · rintro (rfl | rfl)
    · rfl
    · have hempty : ∀ n, times n [] = [] := fun n => List.length_eq_zero_iff.mp (length_times n [])
      rw [hempty, hempty]

end Text

/-! ## Lines up to the white space at their ends -/

namespace Line

variable {indent newline : Text} {line : Line}

theorem render_blank {fill : Mark → Text} (h : ∀ symbol ∈ line, symbol.isBlank = true) :
    ∀ c ∈ line.flatMap (Symbol.render fill), Unicode.isBlank c = true := by
  intro c hc
  obtain ⟨symbol, hsymbol, hc⟩ := List.mem_flatMap.mp hc
  have hblank := h symbol hsymbol
  cases symbol with
  | char d =>
    rw [List.mem_singleton.mp hc]
    exact hblank
  | mark place => exact absurd hblank Bool.false_ne_true

/-- What is written for a line that has not ended is the line at the depth before it. -/
theorem trimEnd_begun (hindent : ∀ c ∈ indent, Unicode.isBlank c = true) (fill : Mark → Text)
    (front : Text) (before : Nat) (line : Line) :
    Text.trimEnd (front ++ (line.begun indent before).flatMap (Symbol.render fill)) =
      Text.trimEnd (front ++ Text.times before indent ++ line.flatMap (Symbol.render fill)) := by
  unfold begun
  split
  · next hline =>
    have htimes : ∀ c ∈ Text.times before indent, Unicode.isBlank c = true :=
      fun c hc => hindent c (Layout.mem_of_mem_times hc)
    rw [hline, List.flatMap_nil, List.append_nil, List.append_nil,
      Text.trimEnd_append_of_blank htimes]
  · rw [List.flatMap_append, Text.render_symbols, List.append_assoc]

/-- What is laid out for a line, with an end after it, is the line at its own depth. -/
theorem trimEnd_laid (hindent : ∀ c ∈ indent, Unicode.isBlank c = true)
    (hnewline : ∀ c ∈ newline, Unicode.isBlank c = true) (fill : Mark → Text) (front : Text)
    (before : Nat) (line : Line) :
    Text.trimEnd (front ++ (line.laid indent before).flatMap (Symbol.render fill) ++ newline) =
      Text.trimEnd (front ++ Text.times (line.depth before) indent ++
        line.flatMap (Symbol.render fill)) := by
  rw [Text.trimEnd_append_of_blank hnewline]
  unfold laid
  split
  · next hempty =>
    -- a blank line is laid out as nothing, and its indentation would be trimmed as well
    have htimes : ∀ c ∈ Text.times (line.depth before) indent, Unicode.isBlank c = true :=
      fun c hc => hindent c (Layout.mem_of_mem_times hc)
    have hline : ∀ c ∈ line.flatMap (Symbol.render fill), Unicode.isBlank c = true :=
      render_blank (isBlank_of_empty hempty.1 hempty.2)
    rw [Text.trimEnd_append_of_blank hline, Text.trimEnd_append_of_blank htimes, List.flatMap_nil,
      List.append_nil]
  · have hend : ∀ c ∈ (line.rtakeWhile Symbol.isBlank).flatMap (Symbol.render fill),
        Unicode.isBlank c = true :=
      render_blank fun symbol hsymbol => List.mem_rtakeWhile_imp hsymbol
    have hline : line.flatMap (Symbol.render fill) =
        (line.rdropWhile Symbol.isBlank).flatMap (Symbol.render fill) ++
          (line.rtakeWhile Symbol.isBlank).flatMap (Symbol.render fill) := by
      rw [← List.flatMap_append, List.rdropWhile_append_rtakeWhile]
    rw [hline, List.flatMap_append, Text.render_symbols, ← List.append_assoc, ← List.append_assoc,
      Text.trimEnd_append_of_blank hend]

end Line

namespace Layout

variable {layout : Layout} {fill : Mark → Text}

/-- A pending line is written at the depth that has been reached, white space at the end apart. -/
theorem trimEnd_finish (h : layout.line.IsNormal)
    (hindent : ∀ c ∈ layout.indent, Unicode.isBlank c = true) (fill : Mark → Text) :
    Text.trimEnd (layout.finish.render fill) =
      Text.trimEnd (layout.document.render fill ++ Text.times layout.depth layout.indent ++
        layout.line.render fill) := by
  rw [Document.render_eq_symbols, symbols_finish h, List.flatMap_append, Line.trimEnd_begun hindent,
    ← Document.render_eq_symbols, ← Document.render_eq_symbols]

/-- A line that is ended is written at its own depth, white space at the end apart. -/
theorem trimEnd_finish_endLine (h : layout.line.IsNormal)
    (hindent : ∀ c ∈ layout.indent, Unicode.isBlank c = true)
    (hnewline : ∀ c ∈ layout.newline, Unicode.isBlank c = true) (fill : Mark → Text) :
    Text.trimEnd (layout.endLine.finish.render fill) =
      Text.trimEnd (layout.document.render fill ++
        Text.times (Line.depth layout.depth layout.line.symbols) layout.indent ++
          layout.line.render fill) := by
  have hfinish : layout.endLine.finish = layout.endLine.document := rfl
  rw [hfinish, Document.render_eq_symbols, symbols_endLine h, List.flatMap_append,
    List.flatMap_append, Text.render_symbols, Line.trimEnd_laid hindent hnewline,
    ← Document.render_eq_symbols, ← Document.render_eq_symbols]

/-- A line that starts with a closing brace still has it when its marks are filled in. -/
theorem mem_render_of_brace {line : Document} (h : ['}'] <+: Text.trim line.text)
    (fill : Mark → Text) : '}' ∈ line.render fill := by
  obtain ⟨before, after, -, -, htext⟩ := Text.exists_trim line.text
  have hmem : '}' ∈ line.text := by
    rw [htext]
    obtain ⟨rest, hrest⟩ := h
    simp [← hrest]
  rw [Document.text_eq_symbols] at hmem
  obtain ⟨symbol, hsymbol, hc⟩ := List.mem_flatMap.mp hmem
  rw [Document.render_eq_symbols]
  cases symbol with
  | char c => exact List.mem_flatMap.mpr ⟨.char c, hsymbol, hc⟩
  | mark place => exact absurd hc List.not_mem_nil

/-- A last line that has not ended is laid out as if it had, exactly when it does not start with a
closing brace, or there is nothing that the line could be less indented by. -/
theorem finish_eq_ended_iff {indent newline : Text}
    (hindent : ∀ c ∈ indent, Unicode.isBlank c = true)
    (hnewline : ∀ c ∈ newline, Unicode.isBlank c = true) (calls : List LayoutCall)
    (fill : Mark → Text) :
    let layout := run { indent, newline } calls
    let ended := run { indent, newline } (calls ++ [.endLine])
    Text.trimEnd (layout.finish.render fill) = Text.trimEnd (ended.finish.render fill) ↔
      (['}'] <+: Text.trim layout.line.text → layout.depth = 0 ∨ indent = []) := by
  intro layout ended
  obtain ⟨lines, -, hlays⟩ := advances_run (isNormal_new indent newline) calls
  have hended : ended = layout.endLine := by
    show run _ _ = _
    rw [run, List.foldl_append]
    rfl
  have hindent' : layout.indent = indent := hlays.indent
  have hnewline' : layout.newline = newline := hlays.newline
  -- both say the same at the end, after the indentation of the line
  rw [hended, trimEnd_finish hlays.normal.line (by rwa [hindent']),
    trimEnd_finish_endLine hlays.normal.line (by rwa [hindent']) (by rwa [hnewline']), hindent',
    Line.depth, text_symbols]
  by_cases hbrace : ['}'] <+: Text.trim layout.line.text
  · have hmem := mem_render_of_brace hbrace fill
    have hfilled : Unicode.isBlank '}' = false := by decide
    rw [if_pos hbrace, Text.trimEnd_append_of_mem hmem hfilled,
      Text.trimEnd_append_of_mem hmem hfilled, List.append_left_inj, List.append_right_inj,
      Text.times_pred_eq_iff]
    exact ⟨fun h _ => h, fun h => h hbrace⟩
  · rw [if_neg hbrace]
    exact iff_of_true rfl fun h => absurd h hbrace

/-- A line with a mark and with white space at its end. -/
theorem finish_eq_ended_iff_marked :
    let calls : List LayoutCall := [.println "a \x7b".toList, .print "b = ".toList, .mark .serial,
      .print " \t".toList]
    let fill : Mark → Text := fun _ => "7".toList
    let layout := run { indent := "  ".toList, newline := ['\n'] } calls
    let ended := run { indent := "  ".toList, newline := ['\n'] } (calls ++ [.endLine])
    (∀ c ∈ "  ".toList, Unicode.isBlank c = true) ∧ (∀ c ∈ ['\n'], Unicode.isBlank c = true) ∧
    layout.finish.render fill = "a \x7b\n  b = 7 \t".toList ∧
    ended.finish.render fill = "a \x7b\n  b = 7\n".toList ∧
    (Text.trimEnd (layout.finish.render fill) = Text.trimEnd (ended.finish.render fill) ↔
      (['}'] <+: Text.trim layout.line.text → layout.depth = 0 ∨ "  ".toList = [])) := by
  intro calls fill layout ended
  have hindent : ∀ c ∈ "  ".toList, Unicode.isBlank c = true := List.all_eq_true.mp (by decide)
  have hnewline : ∀ c ∈ ['\n'], Unicode.isBlank c = true := List.all_eq_true.mp (by decide)
  refine ⟨hindent, hnewline, ?_, ?_, finish_eq_ended_iff hindent hnewline calls fill⟩
  · decide +kernel
  · decide +kernel

/-- A closing brace on the last line is not dedented if its line has not ended. -/
theorem closing_brace_not_dedented :
    let calls : List LayoutCall := [.println "\x7b".toList, .print "\x7d".toList]
    let layout := run { indent := "    ".toList, newline := ['\n'] } calls
    let ended := run { indent := "    ".toList, newline := ['\n'] } (calls ++ [.endLine])
    layout.line ≠ [] ∧ layout.finish.text = "\x7b\n    \x7d".toList ∧
      ended.finish.text = "\x7b\n\x7d\n".toList ∧
      Text.trimEnd layout.finish.text ≠ Text.trimEnd ended.finish.text := by
  decide +kernel

end Layout

end JvmSource
