import Mathlib.Data.List.Basic
import Mathlib.Tactic.Common
import JvmSource.Pattern.Meaning
import JvmSource.Proofs.PackageLine
import JvmSource.Proofs.Pattern.Identifier

/-!
# Searching for the package

A package is declared by the first line that has the form of a declaration. The same package is
found by searching the whole text with a pattern that is anchored at the start and the end of a
line. A match never reaches over the end of a line, so it is a line that declares a package, and the
match that begins leftmost is the first such line. Its path is what the group of the pattern
matches, in whatever way the parts of the pattern share the line among them.
-/

namespace JvmSource

namespace PackageLine

open Pattern Unicode

/-- The pattern of a declaration, as it is written. -/
def patternText : Text :=
  ("(?m)^[ \\t]*package[ \\t]+([\\p\x7bL\x7d_][\\p\x7bL\x7d\\p\x7bN\x7d_]*" ++
    "(?:\\.[\\p\x7bL\x7d_][\\p\x7bL\x7d\\p\x7bN\x7d_]*)*)[ \\t]*;?[ \\t]*\\r?$").toList

/-- Spaces and tabs. -/
def gapSet : CharSet := .unions [.single ' ', .single '\t']

/-- Any number of spaces and tabs. -/
def gaps : Pattern := .repeated 0 none (.one gapSet)

/-- A character that may be missing. -/
def optional (c : Char) : Pattern := .repeated 0 (some 1) (.one (.single c))

/-- A dotted path. -/
def path : Pattern :=
  sequences (identifier ++
    [.repeated 0 none (.group false (sequences (.one (.single '.') :: identifier)))])

/-- What stands in front of the path. -/
def opening : List Pattern :=
  gaps :: ("package".toList.map fun c => .one (.single c)) ++ [.repeated 1 none (.one gapSet)]

/-- What stands after the path. -/
def ending : List Pattern := [gaps, optional ';', gaps, optional '\r']

/-- The pattern of a declaration. -/
def pattern : Pattern :=
  sequences ((.empty :: .anchor (.lineStart false) :: opening) ++
    .group true path :: (ending ++ [.anchor (.lineEnd false)]))

/-- The text of the pattern is read as the pattern. -/
theorem meaning_patternText :
    ((readExpr? patternText).bind (·.meaning? {})).map Prod.fst = some pattern := by
  rfl

/-! ## What the parts of the pattern denote -/

theorem contains_gapSet {c : Char} : gapSet.contains c = true ↔ c = ' ' ∨ c = '\t' := by
  simp [gapSet, CharSet.contains_unions, CharSet.contains_single]

/-- Gaps are matched where there are only spaces and tabs. -/
theorem denotes_gaps : gaps.Denotes IsGaps :=
  denotes_many_one.congr fun stretch => by simp only [contains_gapSet, IsGaps]

/-- An optional character is matched by nothing and by the character itself. -/
theorem denotes_optional (c : Char) :
    (optional c).Denotes fun stretch => stretch = [] ∨ stretch = [c] :=
  (denotes_single c).optional

/-- An identifier with a dot before it. -/
theorem denotes_member :
    (Pattern.group false (sequences (.one (.single '.') :: identifier))).Denotes fun stretch =>
      ∃ name, IsIdentifier name ∧ stretch = '.' :: name := by
  refine (((denotes_single '.').cons denotes_identifier).group false).congr fun stretch => ?_
  constructor
  · rintro ⟨_, name, rfl, rfl, hname⟩
    exact ⟨name, hname, rfl⟩
  · rintro ⟨name, hname, rfl⟩
    exact ⟨['.'], name, rfl, rfl, hname⟩

/-- A path is an identifier and then any number of identifiers with a dot before each. -/
theorem denotes_path :
    path.Denotes fun stretch => ∃ names, names ≠ [] ∧ (∀ name ∈ names, IsIdentifier name) ∧
      stretch = Text.dotted names := by
  have hmembers : (sequences [.repeated 0 none
      (.group false (sequences (.one (.single '.') :: identifier)))]).Denotes _ :=
    denotes_member.many
  refine (denotes_identifier.append hmembers).congr fun stretch => ?_
  constructor
  · rintro ⟨first, _, rfl, hfirst, pieces, rfl, hpieces⟩
    obtain ⟨others, hothers, rfl⟩ := exists_names hpieces
    exact ⟨first :: others, List.cons_ne_nil _ _, List.forall_mem_cons.mpr ⟨hfirst, hothers⟩,
      (Text.dotted_cons_eq_append first others).symm⟩
  · rintro ⟨names, hne, hnames, rfl⟩
    obtain ⟨first, others, rfl⟩ := List.exists_cons_of_ne_nil hne
    obtain ⟨hfirst, hothers⟩ := List.forall_mem_cons.mp hnames
    refine ⟨first, _, Text.dotted_cons_eq_append first others, hfirst, _, rfl, ?_⟩
    intro piece hpiece
    obtain ⟨name, hname, rfl⟩ := List.mem_map.mp hpiece
    exact ⟨name, hothers name hname, rfl⟩

/-- The start of the pattern is matched by the keyword with a gap after it, and perhaps one
before. -/
theorem denotes_opening :
    (sequences opening).Denotes fun stretch =>
      ∃ before between, IsGaps before ∧ IsGaps between ∧ between ≠ [] ∧
        stretch = before ++ "package".toList ++ between := by
  have hbetween : (sequences [.repeated 1 none (.one gapSet)]).Denotes fun stretch =>
      stretch ≠ [] ∧ IsGaps stretch :=
    denotes_some_one.congr fun stretch => by simp only [contains_gapSet, IsGaps]
  refine ((denotes_gaps.cons (denotes_word "package".toList)).append hbetween).congr
    fun stretch => ?_
  constructor
  · rintro ⟨_, between, rfl, ⟨before, _, rfl, hbefore, rfl⟩, hne, hbetween⟩
    exact ⟨before, between, hbefore, hbetween, hne, rfl⟩
  · rintro ⟨before, between, hbefore, hbetween, hne, rfl⟩
    exact ⟨_, between, rfl, ⟨before, _, rfl, hbefore, rfl⟩, hne, hbetween⟩

/-- The rest of the pattern is matched by what may follow the path on its line. -/
theorem denotes_ending : (sequences ending).Denotes IsEnding := by
  have hlast : (sequences [optional '\r']).Denotes _ := denotes_optional '\r'
  refine (denotes_gaps.cons ((denotes_optional ';').cons (denotes_gaps.cons hlast))).congr
    fun stretch => ?_
  constructor
  · rintro ⟨after, _, rfl, hafter, semicolon, _, rfl, hsemicolon, last, ending, rfl, hlast, hending⟩
    rw [← List.append_assoc]
    exact .mk hafter hsemicolon hlast hending
  · rintro @⟨after, semicolon, last, ending, hafter, hsemicolon, hlast, hending⟩
    exact ⟨after, _, List.append_assoc _ _ _, hafter, semicolon, _, rfl, hsemicolon, last, ending,
      rfl, hlast, hending⟩

/-! ## Matches of the whole pattern -/

/-- Whether a stretch of a text, with the text before and after it, lies at the place of a line. -/
structure IsLineBetween (front back : Text) : Prop where
  starts : front = [] ∨ ∃ rest, front = rest ++ ['\n']
  ends : back = [] ∨ ∃ rest, back = '\n' :: rest

theorem captures_pattern_iff_matches {text : Text} {i k a b : Nat} :
    Captures text pattern i k a b ↔
      Matches text (.anchor (.lineStart false)) i i ∧ Matches text (sequences opening) i a ∧
        Matches text path a b ∧ Matches text (sequences ending) b k ∧
        Matches text (.anchor (.lineEnd false)) k k := by
  rw [pattern, captures_sequences_iff (by decide) (by decide)]
  -- anchors take no room, so what is captured starts and ends beside the gaps
  have hstart : Matches text (sequences (.empty :: .anchor (.lineStart false) :: opening)) i a ↔
      Matches text (.anchor (.lineStart false)) i i ∧ Matches text (sequences opening) i a := by
    simp only [matches_sequences_cons_iff]
    constructor
    · rintro ⟨j, hempty, j', hanchor, h⟩
      obtain ⟨rfl, -⟩ := matches_empty_iff.mp hempty
      obtain ⟨rfl, -⟩ := matches_anchor_iff.mp hanchor
      exact ⟨hanchor, h⟩
    · rintro ⟨hanchor, h⟩
      exact ⟨i, .empty hanchor.bounds.2, i, hanchor, h⟩
  have hend : Matches text (sequences (ending ++ [.anchor (.lineEnd false)])) b k ↔
      Matches text (sequences ending) b k ∧ Matches text (.anchor (.lineEnd false)) k k := by
    rw [matches_sequences_append_iff]
    constructor
    · rintro ⟨j, h, hanchor⟩
      obtain ⟨rfl, -⟩ := matches_anchor_iff.mp hanchor
      exact ⟨h, hanchor⟩
    · rintro ⟨h, hanchor⟩
      exact ⟨k, h, hanchor⟩
  rw [hstart, hend, and_assoc]

/-- What stands at the place of a line is matched if it is a declaration, and its path is
captured. -/
theorem captures_pattern_iff {text front head found tail back : Text}
    (htext : text = front ++ head ++ found ++ tail ++ back) :
    Captures text pattern front.length (front ++ head ++ found ++ tail).length
        (front ++ head).length (front ++ head ++ found).length ↔
      IsLineBetween front back ∧
        (∃ before between, IsGaps before ∧ IsGaps between ∧ between ≠ [] ∧
          head = before ++ "package".toList ++ between) ∧
        (∃ names, names ≠ [] ∧ (∀ name ∈ names, IsIdentifier name) ∧
          found = Text.dotted names) ∧ IsEnding tail := by
  have hfront : text = front ++ (head ++ found ++ tail ++ back) := by simp [htext]
  have hhead : text = front ++ head ++ (found ++ tail ++ back) := by simp [htext]
  have hfound : text = front ++ head ++ found ++ (tail ++ back) := by simp [htext]
  rw [captures_pattern_iff_matches, matches_lineStart_iff hfront, denotes_opening.matches_iff hhead,
    denotes_path.matches_iff hfound, denotes_ending.matches_iff htext, matches_lineEnd_iff htext]
  constructor
  · rintro ⟨starts, hopening, hpath, hending, ends⟩
    exact ⟨⟨starts, ends⟩, hopening, hpath, hending⟩
  · rintro ⟨⟨starts, ends⟩, hopening, hpath, hending⟩
    exact ⟨starts, hopening, hpath, hending, ends⟩

/-- A match of the pattern starts at a line that declares the captured path. -/
theorem exists_line_of_captures {text : Text} {i k a b : Nat} (h : Captures text pattern i k a b) :
    ∃ front line back, text = front ++ line ++ back ∧ IsLineBetween front back ∧
      i = front.length ∧ Declares line ((text.take b).drop a) := by
  obtain ⟨-, hopening, hpath, hending, -⟩ := captures_pattern_iff_matches.mp h
  -- the text is cut at the four positions, from the last to the first
  obtain ⟨upToTail, back, rfl, rfl⟩ := exists_append hending.bounds.2
  obtain ⟨upToFound, tail, rfl, rfl⟩ := exists_append hending.bounds.1
  obtain ⟨upToHead, found, rfl, rfl⟩ := exists_append hpath.bounds.1
  obtain ⟨front, head, rfl, rfl⟩ := exists_append hopening.bounds.1
  obtain ⟨hline, ⟨before, between, hbefore, hbetween, hne, rfl⟩, ⟨names, hnames, hidentifiers, rfl⟩,
    hends⟩ := (captures_pattern_iff rfl).mp h
  rw [List.append_assoc _ tail back, List.take_left, List.drop_left]
  exact ⟨front, _, back, by simp, hline, rfl,
    .mk hbefore hbetween hne hnames hidentifiers hends⟩

/-- A line that declares a path is matched from its start, and the path is captured. -/
theorem exists_captures_of_line {text front line back path : Text}
    (htext : text = front ++ line ++ back) (hline : IsLineBetween front back)
    (h : Declares line path) :
    ∃ k a b, Captures text pattern front.length k a b ∧ path = (text.take b).drop a := by
  obtain @⟨before, between, tail, names, hbefore, hbetween, hne, hnames, hidentifiers, hends⟩ := h
  have hparts : text = front ++ (before ++ "package".toList ++ between) ++ Text.dotted names ++ tail ++
      back := by simpa using htext
  refine ⟨_, _, _, (captures_pattern_iff hparts).mpr ⟨hline, ⟨_, _, hbefore, hbetween, hne, rfl⟩,
    ⟨names, hnames, hidentifiers, rfl⟩, hends⟩, ?_⟩
  rw [hparts, List.append_assoc _ tail, List.take_left, List.drop_left]

/-- Where the pattern matches, a line starts that declares a package. -/
theorem exists_line_of_matches {text : Text} {i k : Nat} (h : Matches text pattern i k) :
    ∃ front line back path, text = front ++ line ++ back ∧ IsLineBetween front back ∧
      i = front.length ∧ Declares line path := by
  obtain ⟨a, b, hcaptures⟩ := (exists_captures_iff (by decide) (by decide)).mpr h
  obtain ⟨front, line, back, htext, hline, hi, hdeclares⟩ := exists_line_of_captures hcaptures
  exact ⟨front, line, back, _, htext, hline, hi, hdeclares⟩

/-! ## The first line -/

/-- Whether the first of some lines that declares a package declares that of a path. -/
def FirstDeclares (lines : List Text) (path : Text) : Prop :=
  ∃ before line after, lines = before ++ line :: after ∧
    (∀ earlier ∈ before, ∀ other, ¬ Declares earlier other) ∧ Declares line path

/-- No line that begins before the leftmost match is a declaration. -/
theorem not_declares_of_leftmost {text : Text} {i : Nat}
    (hleftmost : ∀ i' k', Matches text pattern i' k' → i ≤ i') {before after : List Text}
    {earlier : Text} (hsplit : Text.split '\n' text = before ++ earlier :: after)
    (hbefore : (before.flatMap (· ++ ['\n'])).length < i) (path : Text) :
    ¬ Declares earlier path := by
  intro hdeclares
  obtain ⟨back, htext, hback⟩ := Text.exists_bounded_of_split hsplit
  obtain ⟨k, a, b, hcaptures, -⟩ :=
    exists_captures_of_line htext ⟨Text.flatMap_bounded before, hback⟩ hdeclares
  have hle := hleftmost _ k hcaptures.matches
  omega

/-- What the pattern finds is declared by the first line that declares anything. -/
theorem firstDeclares_of_finds {text path : Text} (h : pattern.Finds text path) :
    FirstDeclares (Text.split '\n' text) path := by
  obtain ⟨i, k, a, b, hcaptures, hleftmost, rfl⟩ := h
  obtain ⟨front, line, back, htext, hline, rfl, hdeclares⟩ := exists_line_of_captures hcaptures
  obtain ⟨before, after, hsplit, hfront⟩ :=
    Text.exists_split_of_bounded hline.starts hdeclares.newline_not_mem hline.ends
  rw [← htext] at hsplit
  refine ⟨before, line, after, hsplit, fun earlier hearlier other => ?_, hdeclares⟩
  obtain ⟨first, rest, rfl⟩ := List.append_of_mem hearlier
  rw [List.append_assoc, List.cons_append] at hsplit
  refine not_declares_of_leftmost hleftmost hsplit ?_ other
  rw [hfront, List.flatMap_append, List.flatMap_cons]
  simp only [List.length_append, List.length_singleton]
  omega

/-- What the first declaring line declares is found by the pattern. -/
theorem finds_of_firstDeclares {text path : Text}
    (h : FirstDeclares (Text.split '\n' text) path) : pattern.Finds text path := by
  obtain ⟨before, line, after, hsplit, hnone, hdeclares⟩ := h
  obtain ⟨back, htext, hback⟩ := Text.exists_bounded_of_split hsplit
  obtain ⟨k, a, b, hcaptures, hfound⟩ :=
    exists_captures_of_line htext ⟨Text.flatMap_bounded before, hback⟩ hdeclares
  refine ⟨_, k, a, b, hcaptures, fun i' k' hmatches => ?_, hfound⟩
  obtain ⟨front', line', back', path', htext', hline', rfl, hdeclares'⟩ :=
    exists_line_of_matches hmatches
  obtain ⟨before', after', hsplit', rfl⟩ :=
    Text.exists_split_of_bounded hline'.starts hdeclares'.newline_not_mem hline'.ends
  rw [← htext', hsplit] at hsplit'
  -- the other line is this one or a later one, since none of the earlier ones is a declaration
  rcases List.append_eq_append_iff.mp hsplit' with ⟨more, rfl, -⟩ | ⟨more, rfl, hmore⟩
  · rw [List.flatMap_append, List.length_append]
    exact Nat.le_add_right _ _
  · cases more with
    | nil => rw [List.append_nil]
    | cons earlier more =>
      cases hmore
      exact absurd hdeclares' (hnone _ (by simp) path')

/-- The package of a text is the one that its first line of the form of a declaration declares, and
the one that is found by searching the text with the pattern of a declaration. -/
theorem declaredPackage?_eq_some_iff (text path : Text) :
    (declaredPackage? text = some path ↔ FirstDeclares (text.splitOn '\n') path) ∧
      ∃ p : Pattern, ((readExpr? patternText).bind (·.meaning? {})).map Prod.fst = some p ∧
        (declaredPackage? text = some path ↔ p.Finds text path) := by
  have hlines : declaredPackage? text = some path ↔ FirstDeclares (Text.split '\n' text) path := by
    rw [declaredPackage?, List.findSome?_eq_some_iff]
    simp only [path?_eq_some_iff, path?_eq_none_iff]
    refine exists_congr fun before => exists_congr fun line => exists_congr fun after => ?_
    rw [and_comm (a := Declares line path)]
  refine ⟨?_, pattern, meaning_patternText, ?_⟩
  · rw [hlines, Text.split_eq_splitOn]
  · rw [hlines]
    exact ⟨finds_of_firstDeclares, firstDeclares_of_finds⟩

/-- A dot at the end and a second semicolon keep a line from being a declaration. -/
example : declaredPackage? "package a.\npackage b;;\n\tpackage c.d ; \r\npackage e".toList =
    some "c.d".toList := by
  decide +kernel

end PackageLine

end JvmSource
