import Mathlib.Data.List.Basic
import Mathlib.Tactic.Common
import JvmSource.Dialect.Basic
import JvmSource.PackageLine
import JvmSource.Proofs.Identifier
import JvmSource.Proofs.Text.Pieces
import JvmSource.Proofs.Text.Scanning

/-!
# Lines that declare packages

A line declares a package if it is the word `package` and a dotted path, with nothing around them
but spaces and tabs, a semicolon and a carriage return: `Declares` is the grammar of such lines, and
a line is read as it says. The statement by which a dialect declares a package is of that form, so a
text that starts with it declares that package, whatever follows.
-/

namespace JvmSource

namespace PackageLine

/-- Whether a text is made of spaces and tabs. -/
def IsGaps (text : Text) : Prop := ∀ c ∈ text, c = ' ' ∨ c = '\t'

/-- What may follow the path of a declaration on its line. -/
inductive IsEnding : Text → Prop where
  | mk {after semicolon last ending : Text} (after_gaps : IsGaps after)
      (semicolon_eq : semicolon = [] ∨ semicolon = [';']) (last_gaps : IsGaps last)
      (ending_eq : ending = [] ∨ ending = ['\r']) :
      IsEnding (after ++ semicolon ++ (last ++ ending))

/-- Whether a line declares the package of a path. -/
inductive Declares : (line path : Text) → Prop where
  | mk {before between tail : Text} {names : List Text} (before_gaps : IsGaps before)
      (between_gaps : IsGaps between) (between_ne_nil : between ≠ []) (names_ne_nil : names ≠ [])
      (identifiers : ∀ name ∈ names, IsIdentifier name) (ends : IsEnding tail) :
      Declares (before ++ "package".toList ++ between ++ Text.dotted names ++ tail)
        (Text.dotted names)

theorem IsGaps.newline_not_mem {text : Text} (h : IsGaps text) : '\n' ∉ text := by
  intro hmem
  rcases h _ hmem with hspace | htab
  · exact absurd hspace (by decide)
  · exact absurd htab (by decide)

theorem IsEnding.newline_not_mem {text : Text} (h : IsEnding text) : '\n' ∉ text := by
  obtain ⟨hafter, hsemicolon, hlast, hending⟩ := h
  simp only [List.mem_append, not_or]
  refine ⟨⟨hafter.newline_not_mem, ?_⟩, hlast.newline_not_mem, ?_⟩
  · rcases hsemicolon with rfl | rfl <;> decide
  · rcases hending with rfl | rfl <;> decide

/-- A declaration is a single line. -/
theorem Declares.newline_not_mem {line path : Text} (h : Declares line path) : '\n' ∉ line := by
  obtain ⟨hbefore, hbetween, -, hnames, hidentifiers, hends⟩ := h
  have hpath : IsPath _ := isPath_iff.mpr ⟨hnames, hidentifiers⟩
  simp only [List.mem_append, not_or]
  exact ⟨⟨⟨⟨hbefore.newline_not_mem, by decide⟩, hbetween.newline_not_mem⟩,
    hpath.not_mem (by decide) (by decide)⟩, hends.newline_not_mem⟩

/-! ## Reading a line -/

theorem isGap_iff {c : Char} : isGap c = true ↔ c = ' ' ∨ c = '\t' := by simp [isGap]

/-- A text is made of spaces and tabs if each of its characters is one. -/
theorem isGaps_iff {text : Text} : IsGaps text ↔ ∀ c ∈ text, isGap c = true := by
  simp only [IsGaps, isGap_iff]

theorem isGaps_takeWhile (text : Text) : IsGaps (text.takeWhile isGap) :=
  isGaps_iff.mpr (List.all_eq_true.mp List.all_takeWhile)

/-- One semicolon at most is taken off. -/
theorem exists_semicolon (rest : Text) :
    ∃ semicolon, (semicolon = [] ∨ semicolon = [';']) ∧
      rest = semicolon ++ (if rest.head? = some ';' then rest.drop 1 else rest) := by
  split
  · next hhead =>
    obtain ⟨more, rfl⟩ := List.head?_eq_some_iff.mp hhead
    exact ⟨[';'], Or.inr rfl, rfl⟩
  · exact ⟨[], Or.inl rfl, rfl⟩

/-- What is read as the end of a declaration may follow its path. -/
theorem isEnding_of_isEnd {text : Text} (h : isEnd text = true) : IsEnding text := by
  let rest := text.dropWhile isGap
  let last := if rest.head? = some ';' then rest.drop 1 else rest
  have hlast : last.dropWhile isGap = [] ∨ last.dropWhile isGap = ['\r'] := by
    simpa only [isEnd, Bool.or_eq_true, beq_iff_eq] using h
  obtain ⟨semicolon, hsemicolon, hrest⟩ := exists_semicolon rest
  -- what was skipped is put back in front of what was left
  have htext : text = text.takeWhile isGap ++ semicolon ++
      (last.takeWhile isGap ++ last.dropWhile isGap) := by
    rw [List.takeWhile_append_dropWhile, List.append_assoc, ← hrest,
      List.takeWhile_append_dropWhile]
  rw [htext]
  exact .mk (isGaps_takeWhile text) hsemicolon (isGaps_takeWhile last) hlast

/-- Whatever may follow the path of a declaration is read as its end. -/
theorem isEnd_of_isEnding {text : Text} (h : IsEnding text) : isEnd text = true := by
  obtain @⟨after, semicolon, last, ending, hafter, hsemicolon, hlast, hending⟩ := h
  have hstop : ∀ c, ending.head? = some c → isGap c = false := by
    rcases hending with rfl | rfl <;> simp [isGap]
  have hdrop : (last ++ ending).dropWhile isGap = ending :=
    Text.dropWhile_append_eq_right (isGaps_iff.mp hlast) hstop
  rcases hsemicolon with rfl | rfl
  · have hfirst : (after ++ [] ++ (last ++ ending)).dropWhile isGap = ending := by
      rw [List.append_nil, List.dropWhile_append_of_pos (isGaps_iff.mp hafter), hdrop]
    rw [isEnd, hfirst]
    rcases hending with rfl | rfl <;> rfl
  · have hfirst : (after ++ [';'] ++ (last ++ ending)).dropWhile isGap =
        ';' :: (last ++ ending) := by
      rw [List.append_assoc]
      exact Text.dropWhile_append_eq_right (isGaps_iff.mp hafter) (by simp [isGap])
    rw [isEnd, hfirst]
    show ((last ++ ending).dropWhile isGap == [] || (last ++ ending).dropWhile isGap == ['\r']) = true
    rw [hdrop]
    rcases hending with rfl | rfl <;> rfl

/-- The end of a declaration is read by its grammar. -/
theorem isEnd_iff {text : Text} : isEnd text = true ↔ IsEnding text :=
  ⟨isEnding_of_isEnd, isEnd_of_isEnding⟩

/-- No character of an identifier is a space or a tab. -/
theorem isGap_of_continues {c : Char} (h : Identifier.continues c = true) : isGap c = false := by
  have hspace : c ≠ ' ' := Identifier.ne_of_continues h (by decide)
  have htab : c ≠ '\t' := Identifier.ne_of_continues h (by decide)
  simp [isGap, hspace, htab]

/-- The characters of a path are such that reading a path does not stop at them. -/
theorem isPathCharacter_of_mem {names : List Text} (h : IsPath names) :
    ∀ c ∈ Text.dotted names, isPathCharacter c = true := by
  intro c hc
  rcases h.continues_of_mem hc with rfl | hcontinues
  · decide
  · simp [isPathCharacter, hcontinues]

/-- What ends a declaration does not go on with its path. -/
theorem not_isPathCharacter_of_isEnding {tail : Text} (h : IsEnding tail) :
    ∀ c, tail.head? = some c → isPathCharacter c = false := by
  have hgaps : ∀ {gaps rest : Text}, IsGaps gaps →
      (∀ c, rest.head? = some c → isPathCharacter c = false) →
        ∀ c, (gaps ++ rest).head? = some c → isPathCharacter c = false := by
    intro gaps rest hgaps hrest c hc
    cases gaps with
    | nil => exact hrest c hc
    | cons gap gaps =>
      cases hc
      rcases hgaps c List.mem_cons_self with rfl | rfl <;> rfl
  -- the first character is that of whichever part is not empty
  obtain ⟨hafter, hsemicolon, hlast, hending⟩ := h
  rw [List.append_assoc]
  apply hgaps hafter
  rcases hsemicolon with rfl | rfl
  · apply hgaps hlast
    rcases hending with rfl | rfl
    · simp
    · rintro c ⟨⟩
      rfl
  · rintro c ⟨⟩
    rfl

/-- The path of a declaration is read from it. -/
theorem path?_of_declares {line path : Text} (h : Declares line path) : path? line = some path := by
  obtain @⟨before, between, tail, names, hbefore, hbetween, hne, hnames, hidentifiers, hends⟩ := h
  have hpath : IsPath names := isPath_iff.mpr ⟨hnames, hidentifiers⟩
  obtain ⟨first, rest, hcons, hfirst⟩ := hpath.exists_cons
  have hgap : isGap first = false := isGap_of_continues (Identifier.continues_of_starts hfirst)
  have hline : (before ++ "package".toList ++ between ++ Text.dotted names ++ tail).dropWhile isGap =
      "package".toList ++ (between ++ (Text.dotted names ++ tail)) := by
    simp only [List.append_assoc]
    exact Text.dropWhile_append_eq_right (isGaps_iff.mp hbefore) (by simp [isGap])
  have hdeclared : "package".toList.isPrefixOf?
      ("package".toList ++ (between ++ (Text.dotted names ++ tail))) =
        some (between ++ (Text.dotted names ++ tail)) :=
    List.isPrefixOf?_eq_some_iff_append_eq.mpr rfl
  have hrest : (between ++ (Text.dotted names ++ tail)).dropWhile isGap = Text.dotted names ++ tail :=
    Text.dropWhile_append_eq_right (isGaps_iff.mp hbetween) (by simp [hcons, hgap])
  -- nothing that may follow the path belongs to it
  have hwhole : (Text.dotted names ++ tail).takeWhile isPathCharacter = Text.dotted names :=
    Text.takeWhile_append_eq_left (isPathCharacter_of_mem hpath)
      (not_isPathCharacter_of_isEnding hends)
  have hsome : pathNames? (Text.dotted names) = some names := pathNames?_eq_some_iff.mpr ⟨hpath, rfl⟩
  have hpos := List.length_pos_iff.mpr hne
  unfold path?
  rw [hline, hdeclared]
  simp [hrest, hwhole, hsome, isEnd_iff.mpr hends, hpos]

/-- A line from which a path is read is a declaration of it. -/
theorem declares_of_path? {line path : Text} (h : path? line = some path) : Declares line path := by
  unfold path? at h
  obtain ⟨declared, hdeclared, h⟩ := Option.bind_eq_some_iff.mp h
  let rest := declared.dropWhile isGap
  let found := rest.takeWhile isPathCharacter
  have hread : ((rest.length < declared.length ∧ (pathNames? found).isSome = true) ∧
      isEnd (rest.drop found.length) = true) ∧ found = path := by
    simpa only [Option.ite_none_right_eq_some, Bool.and_eq_true, decide_eq_true_eq,
      Option.some.injEq] using h
  obtain ⟨⟨⟨hlength, hsome⟩, hend⟩, hfound⟩ := hread
  obtain ⟨names, hnames⟩ := Option.isSome_iff_exists.mp hsome
  obtain ⟨hpath, hdotted⟩ := pathNames?_eq_some_iff.mp hnames
  obtain ⟨hne, hidentifiers⟩ := isPath_iff.mp hpath
  have hrest : found ++ rest.drop found.length = rest :=
    List.prefix_iff_eq_append.mp (List.takeWhile_prefix isPathCharacter)
  have hgaps : declared.takeWhile isGap ++ rest = declared := List.takeWhile_append_dropWhile
  -- the path is shorter than what follows the keyword, so there is a gap between them
  have hbetween : declared.takeWhile isGap ≠ [] := by
    intro hnil
    rw [hnil, List.nil_append] at hgaps
    rw [hgaps] at hlength
    exact absurd hlength (Nat.lt_irrefl _)
  -- the line is what has been read of it, part by part
  have hline : line.takeWhile isGap ++ "package".toList ++ declared.takeWhile isGap ++ found ++
      rest.drop found.length = line := by
    rw [List.append_assoc _ found, hrest, List.append_assoc _ _ rest, hgaps, List.append_assoc,
      List.isPrefixOf?_eq_some_iff_append_eq.mp hdeclared, List.takeWhile_append_dropWhile]
  have hdeclares := Declares.mk (isGaps_takeWhile line) (isGaps_takeWhile declared) hbetween hne
    hidentifiers (isEnd_iff.mp hend)
  rwa [← hdotted, hline, hfound] at hdeclares

/-- A path is read from exactly the lines that declare it. -/
theorem path?_eq_some_iff {line path : Text} : path? line = some path ↔ Declares line path :=
  ⟨declares_of_path?, path?_of_declares⟩

/-- No path is read from a line that is no declaration. -/
theorem path?_eq_none_iff {line : Text} : path? line = none ↔ ∀ path, ¬ Declares line path := by
  simp only [Option.eq_none_iff_forall_ne_some, ne_eq, path?_eq_some_iff]

/-- The statement that declares a package is a declaration of it. -/
theorem path?_packageStatement (dialect : Dialect) {names : List Text} (h : IsPath names)
    {ending : Text} (hending : ending = [] ∨ ending = ['\r']) :
    path? (dialect.policy.packageStatement (Text.dotted names) ++ ending) =
      some (Text.dotted names) := by
  obtain ⟨hne, hidentifiers⟩ := isPath_iff.mp h
  have hterminator : dialect.policy.terminator = [] ∨ dialect.policy.terminator = [';'] := by
    cases dialect
    · exact Or.inr rfl
    · exact Or.inl rfl
    · exact Or.inl rfl
  have hgaps : IsGaps [] := by simp [IsGaps]
  have hspace : IsGaps [' '] := by simp [IsGaps]
  have hends : IsEnding ([] ++ dialect.policy.terminator ++ ([] ++ ending)) :=
    .mk hgaps hterminator hgaps hending
  have hdeclares := Declares.mk hgaps hspace (List.cons_ne_nil ' ' []) hne hidentifiers hends
  have hline : dialect.policy.packageStatement (Text.dotted names) ++ ending =
      [] ++ "package".toList ++ [' '] ++ Text.dotted names ++
        ([] ++ dialect.policy.terminator ++ ([] ++ ending)) :=
    List.append_assoc _ _ _
  rw [hline]
  exact path?_of_declares hdeclares

/-- Spaces and tabs before a declaration make no difference. -/
theorem path?_append_of_gaps {gaps : Text} (h : ∀ c ∈ gaps, isGap c = true) (line : Text) :
    path? (gaps ++ line) = path? line := by
  unfold path?
  rw [List.dropWhile_append_of_pos h]

end PackageLine

/-- Lines are searched in order. -/
theorem declaredPackage?_append (first rest : Text) :
    declaredPackage? (first ++ '\n' :: rest) =
      (declaredPackage? first).or (declaredPackage? rest) := by
  rw [declaredPackage?, Text.split_append_separator, List.findSome?_append]
  rfl

/-- Once a line that has ended declares a package, it does not matter what follows. -/
theorem declaredPackage?_of_declared {start text package : Text}
    (hdeclared : declaredPackage? (start ++ ['\n']) = some package)
    (hstarts : start ++ ['\n'] <+: text) : declaredPackage? text = some package := by
  obtain ⟨more, rfl⟩ := hstarts
  have hnone : declaredPackage? [] = none := rfl
  rw [declaredPackage?_append, hnone, Option.or_none] at hdeclared
  rw [List.append_assoc, List.singleton_append, declaredPackage?_append, hdeclared]
  rfl

/-- The statement that declares a package is a single line. -/
theorem newline_not_mem_packageStatement (dialect : Dialect) {names : List Text}
    (h : IsPath names) : '\n' ∉ dialect.policy.packageStatement (Text.dotted names) := by
  have hpath := PackageLine.path?_packageStatement dialect h (Or.inl rfl)
  rw [List.append_nil] at hpath
  exact (PackageLine.declares_of_path? hpath).newline_not_mem

/-- A text that starts with the declaration of a package declares that package. -/
theorem declaredPackage?_of_prefix (dialect : Dialect) {names : List Text} (h : IsPath names)
    {newline text : Text} (hnewline : newline = ['\n'] ∨ newline = ['\r', '\n'])
    (hbegins : dialect.policy.packageStatement (Text.dotted names) ++ newline <+: text) :
    declaredPackage? text = some (Text.dotted names) := by
  obtain ⟨more, rfl⟩ := hbegins
  obtain ⟨ending, hending, rfl⟩ : ∃ ending : Text, (ending = [] ∨ ending = ['\r']) ∧
      newline = ending ++ ['\n'] := by
    rcases hnewline with rfl | rfl
    · exact ⟨[], Or.inl rfl, rfl⟩
    · exact ⟨['\r'], Or.inr rfl, rfl⟩
  have hpath := PackageLine.path?_packageStatement dialect h hending
  have hline := (PackageLine.declares_of_path? hpath).newline_not_mem
  have hsplit := Text.split_append_cons hline more
  have hsame : dialect.policy.packageStatement (Text.dotted names) ++ (ending ++ ['\n']) ++ more =
      dialect.policy.packageStatement (Text.dotted names) ++ ending ++ '\n' :: more := by simp
  rw [declaredPackage?, hsame, hsplit, List.findSome?_cons, hpath]

end JvmSource
