import Mathlib.Tactic.Common
import JvmSource.Proofs.DocComment.Pieces
import JvmSource.Proofs.DocComment.Seams
import JvmSource.Proofs.Layout.Lines
import JvmSource.Proofs.Text.Pieces
import JvmSource.Writer.Basic

/-!
# Documentation comments

The text of a documentation comment and its arguments are escaped one by one, and then put together.
So a comment delimiter gets into the comment in one way only: half of it ends one piece of a line,
and the other half starts the next (`contained_commentBody_iff`).
-/

namespace JvmSource

open DocComment (Contained SpelledAcross)

/-! ## Lines in pieces -/

namespace Layout

/-- The pieces of a line as it is laid out at a depth. The characters of the indentation are pieces
of their own. -/
def linePieces (indent : Text) (depth : Nat) (line : List Text) : List Text :=
  let text := dropReturn line.flatten
  if (Text.trim text).isEmpty then []
  else (Text.times (lineDepth depth text) indent).map ([·]) ++ line

/-- Lines in pieces as they are laid out from a depth on. -/
def laidPieces (indent : Text) : (depth : Nat) → List (List Text) → List (List Text)
  | _, [] => []
  | depth, line :: lines =>
    linePieces indent depth line ::
      laidPieces indent (depthAfter depth (dropReturn line.flatten)) lines

theorem flatten_map_singleton (text : Text) : (text.map ([·])).flatten = text := by
  induction text with
  | nil => rfl
  | cons c text ih =>
    rw [List.map_cons, List.flatten_cons, ih]
    rfl

/-- White space that is dropped at the end of a line makes no difference to comments. -/
theorem contained_laidLine_iff (indent : Text) (depth : Nat) (line : List Text) :
    Contained (laidLine indent depth (dropReturn line.flatten)) ↔
      Contained (linePieces indent depth line).flatten := by
  obtain ⟨after, hafter, hline⟩ := exists_dropReturn line.flatten
  obtain ⟨after', hafter', hline'⟩ := Text.exists_trimEnd (dropReturn line.flatten)
  -- what a line loses at its end is white space, of which nothing is spelled
  have hblank : ∀ c ∈ after' ++ after, Unicode.isBlank c = true := by
    intro c hc
    rcases List.mem_append.mp hc with hc | hc
    · exact hafter' c hc
    · exact hafter c hc
  have hwhole : line.flatten = Text.trimEnd (dropReturn line.flatten) ++ (after' ++ after) := by
    rw [← List.append_assoc, ← hline', ← hline]
  unfold laidLine linePieces
  by_cases htrim : (Text.trim (dropReturn line.flatten)).isEmpty = true
  · simp only [if_pos htrim, List.flatten_nil]
  · have hlong : ∀ front, front ++ line.flatten =
        front ++ Text.trimEnd (dropReturn line.flatten) ++ (after' ++ after) := by
      intro front
      rw [List.append_assoc, ← hwhole]
    simp only [if_neg htrim]
    rw [List.flatten_append, flatten_map_singleton, hlong]
    exact (DocComment.contained_append_blanks hblank).symm

/-- Lines that are laid out are contained if every one of them is. -/
theorem contained_joinLines_iff (indent : Text) (depth : Nat) (lines : List (List Text)) :
    Contained (joinLines ['\n']
        (laidLines indent depth (lines.map fun line => dropReturn line.flatten))) ↔
      ∀ line ∈ laidPieces indent depth lines, Contained line.flatten := by
  induction lines generalizing depth with
  | nil =>
    have hnil : Contained [] := by decide
    exact iff_of_true hnil (by simp [laidPieces])
  | cons line lines ih =>
    have hnewline : DocComment.IsApart '\n' := by decide
    rw [List.map_cons, laidLines, joinLines_cons, List.singleton_append,
      DocComment.contained_append_cons hnewline, contained_laidLine_iff, ih, laidPieces,
      List.forall_mem_cons]

theorem laidPieces_cases {indent : Text} {depth : Nat} {lines : List (List Text)} {line : List Text}
    (h : line ∈ laidPieces indent depth lines) :
    line = [] ∨ ∃ depth, ∃ whole ∈ lines, line = (Text.times depth indent).map ([·]) ++ whole := by
  induction lines generalizing depth with
  | nil => exact absurd h (by simp [laidPieces])
  | cons first lines ih =>
    rw [laidPieces] at h
    rcases List.mem_cons.mp h with rfl | h
    · by_cases htrim : (Text.trim (dropReturn first.flatten)).isEmpty = true
      · exact Or.inl (if_pos htrim)
      · exact Or.inr ⟨_, first, List.mem_cons_self .., if_neg htrim⟩
    · rcases ih h with hnil | ⟨depth, whole, hwhole, hline⟩
      · exact Or.inl hnil
      · exact Or.inr ⟨depth, whole, List.mem_cons_of_mem _ hwhole, hline⟩

end Layout

/-! ## Comments -/

namespace Writer

variable {writer : Writer}

/-- The text of a documentation comment with its arguments put in, in pieces. -/
def commentPieces (text : Text) (args : List Arg) : List Text :=
  Template.pieces (" * ".toList ++ DocComment.escape text) (DocComment.escapeArgs args)

/-- The lines of a documentation comment between its first and its last line, in pieces. -/
def commentLines (writer : Writer) (text : Text) (args : List Arg) : List (List Text) :=
  Layout.laidPieces writer.layout.indent writer.newline.layout.depth
    (Text.splitPieces '\n' (commentPieces text args))

/-- What is laid out between the first and the last line of a documentation comment. -/
def commentBody (writer : Writer) (text : Text) (args : List Arg) : Text :=
  Layout.joinLines writer.layout.newline
    (Layout.laidLines writer.layout.indent writer.newline.layout.depth
      (Layout.linesOf (commentPieces text args).flatten))

/-- The depth of the last line of a documentation comment. -/
def commentDepth (writer : Writer) (text : Text) (args : List Arg) : Nat :=
  Layout.depthAfterAll writer.newline.layout.depth
    (Layout.linesOf (commentPieces text args).flatten)

/-- No delimiter is spelled in any piece of a line of the comment. -/
theorem clean_of_mem_commentLines {text : Text} {args : List Arg} {line : List Text} {piece : Text}
    (hline : line ∈ writer.commentLines text args) (hpiece : piece ∈ line) :
    DocComment.Clean piece := by
  rcases Layout.laidPieces_cases hline with rfl | ⟨depth, whole, hwhole, rfl⟩
  · exact absurd hpiece (by simp)
  rcases List.mem_append.mp hpiece with hchar | hmem
  · obtain ⟨c, -, rfl⟩ := List.mem_map.mp hchar
    exact DocComment.clean_singleton c
  · obtain ⟨source, hsource, hlies⟩ := Text.infix_of_mem_splitPieces hwhole hmem
    have hclean : DocComment.Clean source :=
      DocComment.clean_of_mem_pieces (DocComment.clean_template text) hsource
    exact hclean.of_infix hlies

/-- The body of a documentation comment is contained exactly when no seam in its lines spells a
delimiter. -/
theorem contained_commentBody_iff (hnewline : writer.layout.newline = ['\n']) (text : Text)
    (args : List Arg) :
    Contained (writer.commentBody text args) ↔
      ∀ line ∈ writer.commentLines text args, ∀ front back, line = front ++ back →
        ¬ SpelledAcross front.flatten back.flatten := by
  have hlines : Layout.linesOf (commentPieces text args).flatten =
      (Text.splitPieces '\n' (commentPieces text args)).map
        fun line => Layout.dropReturn line.flatten := by
    rw [Layout.linesOf, ← Text.map_flatten_splitPieces, List.map_map]
    rfl
  rw [commentBody, hnewline, hlines, Layout.contained_joinLines_iff]
  have hseams : ∀ line ∈ writer.commentLines text args, Contained line.flatten ↔
      ∀ front back, line = front ++ back → ¬ SpelledAcross front.flatten back.flatten := by
    intro line hline
    apply DocComment.contained_flatten_iff
    exact fun piece hpiece => clean_of_mem_commentLines hline hpiece
  exact forall₂_congr hseams

/-- Without arguments, and with white space for indentation, there is no way to close a comment. -/
theorem contained_commentBody_of_no_args (hnewline : writer.layout.newline = ['\n'])
    (hindent : ∀ c ∈ writer.layout.indent, Unicode.isBlank c = true) (text : Text) :
    Contained (writer.commentBody text []) := by
  rw [contained_commentBody_iff hnewline]
  intro line hline front back hsplit
  rcases Layout.laidPieces_cases hline with rfl | ⟨depth, whole, hwhole, rfl⟩
  · rw [(List.append_eq_nil_iff.mp hsplit.symm).2]
    exact DocComment.not_spelledAcross_nil _
  · obtain ⟨piece, rfl⟩ := Text.mem_splitPieces_singleton hwhole
    rcases List.eq_nil_or_concat back with rfl | ⟨others, last, rfl⟩
    · exact DocComment.not_spelledAcross_nil _
    · -- the seam is in front of the only piece, or between characters of the indentation
      rw [List.concat_eq_append, ← List.append_assoc] at hsplit
      have hfront : (Text.times depth writer.layout.indent).map ([·]) = front ++ others :=
        List.append_inj_left' hsplit rfl
      apply DocComment.not_spelledAcross_of_forall
      intro c hc
      apply DocComment.isApart_of_isBlank
      have hmem : c ∈ (front ++ others).flatten := by
        rw [List.flatten_append]
        exact List.mem_append_left _ hc
      rw [← hfront, Layout.flatten_map_singleton] at hmem
      exact hindent c (Layout.mem_of_mem_times hmem)

/-- A documentation comment is its opening line, its body, and its closing line. -/
theorem text_docComment (hdoc : writer.docComments = true) (text : Text) (args : List Arg) :
    (writer.docComment text args).layout.document.text =
      writer.newline.layout.document.text ++
        (Text.times writer.newline.layout.depth writer.layout.indent ++ "/**".toList ++
          writer.layout.newline ++ writer.commentBody text args ++
          (Text.times (writer.commentDepth text args) writer.layout.indent ++ " */".toList ++
            writer.layout.newline)) := by
  let start := writer.newline.layout
  let comment := (commentPieces text args).flatten
  have hopening : start.GoneOn (start.println "/**".toList)
      (Text.times start.depth start.indent ++ "/**".toList ++ start.newline) start.depth :=
    Layout.goneOn_println_of_plain rfl _ rfl rfl rfl (by decide)
  have hbody := Layout.goneOn_println hopening.line comment
  rw [hopening.newline, hopening.indent, hopening.depth] at hbody
  have hclosing := Layout.goneOn_println_of_plain hbody.line " */".toList rfl rfl rfl (by decide)
  rw [hbody.newline, hbody.indent, hbody.depth, hopening.newline, hopening.indent] at hclosing
  have hformat : Template.format (" * ".toList ++ DocComment.escape text)
      (DocComment.escapeArgs args) = comment := (Template.flatten_pieces _ _).symm
  have hcomment : (writer.docComment text args).layout =
      ((start.println "/**".toList).println comment).println " */".toList := by
    have hwanted : writer.newline.docComments = true := hdoc
    unfold docComment
    rw [hformat]
    simp only
    rw [if_pos hwanted]
    rfl
  rw [hcomment, ((hopening.trans hbody).trans hclosing).text]
  rfl

/-- The text that a documentation comment adds between its opening and its closing line has a
comment delimiter in it, decoded or not, exactly when one is spelled across two pieces of a line. -/
theorem docComment_contained_iff (hdoc : writer.docComments = true)
    (hnewline : writer.layout.newline = ['\n']) (text : Text) (args : List Arg) :
    (writer.docComment text args).layout.document.text =
        writer.newline.layout.document.text ++
          (Text.times writer.newline.layout.depth writer.layout.indent ++ "/**".toList ++ ['\n'] ++
            writer.commentBody text args ++
            (Text.times (writer.commentDepth text args) writer.layout.indent ++ " */".toList ++
              ['\n'])) ∧
      (Contained (writer.commentBody text args) ↔
        ∀ line ∈ writer.commentLines text args, ∀ front back, line = front ++ back →
          ¬ SpelledAcross front.flatten back.flatten) := by
  refine ⟨?_, contained_commentBody_iff hnewline text args⟩
  have htext := text_docComment hdoc text args
  rw [hnewline] at htext
  exact htext

/-- The text and the argument of the comment are put together to a star and a slash. -/
theorem docComment_contained_iff_main :
    ∃ writer,
      create "A.java".toList {} .lexical = .ok writer ∧
      (writer.docComment "%s/".toList [.text ['*']]).layout.document.text =
        writer.newline.layout.document.text ++
          (Text.times writer.newline.layout.depth writer.layout.indent ++ "/**".toList ++ ['\n'] ++
            writer.commentBody "%s/".toList [.text ['*']] ++
            (Text.times (writer.commentDepth "%s/".toList [.text ['*']]) writer.layout.indent ++
              " */".toList ++ ['\n'])) ∧
      (Contained (writer.commentBody "%s/".toList [.text ['*']]) ↔
        ∀ line ∈ writer.commentLines "%s/".toList [.text ['*']], ∀ front back,
          line = front ++ back → ¬ SpelledAcross front.flatten back.flatten) := by
  have hcreate : ∃ writer, create "A.java".toList {} .lexical = .ok writer ∧
      writer.docComments = true ∧ writer.layout.newline = ['\n'] := ⟨_, rfl, rfl, rfl⟩
  obtain ⟨writer, hcreate, hdoc, hnewline⟩ := hcreate
  exact ⟨writer, hcreate, docComment_contained_iff hdoc hnewline _ _⟩

/-- A star that is put before a slash closes the comment. -/
theorem docComment_not_contained :
    ∃ writer,
      create "A.java".toList {} .lexical = .ok writer ∧
      writer.docComments = true ∧ writer.layout.newline = ['\n'] ∧
      (writer.docComment "%s/".toList [.text ['*']]).layout.document.text =
        "\n/**\n".toList ++ " * */\n".toList ++ " */\n".toList ∧
      writer.commentBody "%s/".toList [.text ['*']] = " * */\n".toList ∧
      ¬ Contained (writer.commentBody "%s/".toList [.text ['*']]) := by
  have hbody : ¬ Contained " * */\n".toList := by decide
  exact ⟨_, rfl, rfl, rfl, rfl, rfl, hbody⟩

end Writer

end JvmSource
