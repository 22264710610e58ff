import Mathlib.Data.List.Basic
import Mathlib.Tactic.Common
import JvmSource.Pattern.Simplified
import JvmSource.Proofs.Unicode.CharSet

/-!
# What patterns match

A pattern matches between two positions of a text. The text is cut there, so a match is told by the
stretch between the cuts and by what stands before and after it. Only anchors look at that: a
pattern without them denotes the kind of stretches that it matches anywhere, and patterns that are
put together denote what the kinds of their parts give.

A pattern may have groups that remember their matches. What is found with such a pattern is the
stretch of each group in a match that begins leftmost.
-/

namespace JvmSource.Pattern

/-- Whether a pattern matches a stretch of a text, with the text before and after it. -/
def MatchesAt (p : Pattern) (front stretch back : Text) : Prop :=
  Matches (front ++ stretch ++ back) p front.length (front.length + stretch.length)

/-- Whether a pattern matches the stretches of a kind and no others, whatever stands around them. -/
def Denotes (p : Pattern) (kind : Text → Prop) : Prop :=
  ∀ front stretch back, p.MatchesAt front stretch back ↔ kind stretch

/-- `Captures text p i j a b`: pattern `p` matches between `i` and `j`, and the group of it that
remembers, as a part of a sequence, matches between `a` and `b`. -/
inductive Captures (text : Text) : Pattern → Nat → Nat → Nat → Nat → Prop where
  | group {p i j} (body : Matches text p i j) : Captures text (.group true p) i j i j
  | first {p q i j k a b} (first : Captures text p i j a b) (second : Matches text q j k) :
      Captures text (.sequence p q) i k a b
  | second {p q i j k a b} (first : Matches text p i j) (second : Captures text q j k a b) :
      Captures text (.sequence p q) i k a b

/-- Whether a stretch is what the group of a pattern matches in a match that begins leftmost. -/
def Finds (p : Pattern) (text found : Text) : Prop :=
  ∃ i j a b, Captures text p i j a b ∧ (∀ i' j', Matches text p i' j' → i ≤ i') ∧
    found = (text.take b).drop a

/-- `Remembers text p i j found`: pattern `p` matches between `i` and `j`, and the groups of it that
remember, as parts of a sequence, match the stretches `found`, one after the other. -/
inductive Remembers (text : Text) : Pattern → Nat → Nat → List Text → Prop where
  | nothing {p i j} (groupless : p.hasGroup = false) (whole : Matches text p i j) :
      Remembers text p i j []
  | group {p i j} (body : Matches text p i j) :
      Remembers text (.group true p) i j [(text.take j).drop i]
  | sequence {p q i j k found found'} (first : Remembers text p i j found)
      (second : Remembers text q j k found') : Remembers text (.sequence p q) i k (found ++ found')

/-- Whether stretches are what the groups of a pattern match in a match that begins leftmost. -/
def FindsGroups (p : Pattern) (text : Text) (found : List Text) : Prop :=
  ∃ i j, Remembers text p i j found ∧ ∀ i' j', Matches text p i' j' → i ≤ i'

variable {p q : Pattern} {set : Unicode.CharSet} {text front stretch back : Text} {i j k : Nat}
  {kind kind' : Text → Prop}

/-! ## Positions -/

/-- A match ends no earlier than it begins, and lies within the text. -/
theorem Matches.bounds (h : Matches text p i j) : i ≤ j ∧ j ≤ text.length := by
  induction h with
  | empty bound => exact ⟨Nat.le_refl _, bound⟩
  | one char member =>
    obtain ⟨hlt, -⟩ := List.getElem?_eq_some_iff.mp char
    exact ⟨Nat.le_succ _, hlt⟩
  | anchor bound holds => exact ⟨Nat.le_refl _, bound⟩
  | sequence first second ihfirst ihsecond =>
    exact ⟨Nat.le_trans ihfirst.1 ihsecond.1, ihsecond.2⟩
  | left left ih => exact ih
  | right right ih => exact ih
  | done bound => exact ⟨Nat.le_refl _, bound⟩
  | again room first rest ihfirst ihrest => exact ⟨Nat.le_trans ihfirst.1 ihrest.1, ihrest.2⟩
  | group body ih => exact ih

theorem matches_empty_iff : Matches text .empty i j ↔ j = i ∧ i ≤ text.length := by
  constructor
  · intro h
    cases h with
    | empty bound => exact ⟨rfl, bound⟩
  · rintro ⟨rfl, bound⟩
    exact .empty bound

/-- A set of characters matches just one character, which is a member. -/
theorem matches_one_iff :
    Matches text (.one set) i j ↔ j = i + 1 ∧ ∃ c, text[i]? = some c ∧ set.contains c = true := by
  constructor
  · intro h
    cases h with
    | one char member => exact ⟨rfl, _, char, member⟩
  · rintro ⟨rfl, c, char, member⟩
    exact .one char member

/-- An anchor takes no room, and looks at the characters on both sides of its position. -/
theorem matches_anchor_iff {a : Anchor} :
    Matches text (.anchor a) i j ↔
      j = i ∧ i ≤ text.length ∧ a.holds (before? text i) text[i]? = true := by
  constructor
  · intro h
    cases h with
    | anchor bound holds => exact ⟨rfl, bound, holds⟩
  · rintro ⟨rfl, bound, holds⟩
    exact .anchor bound holds

/-- A sequence matches where its first part ends and its second part begins. -/
theorem matches_sequence_iff :
    Matches text (.sequence p q) i k ↔ ∃ j, Matches text p i j ∧ Matches text q j k := by
  constructor
  · intro h
    cases h with
    | sequence first second => exact ⟨_, first, second⟩
  · rintro ⟨j, first, second⟩
    exact .sequence first second

theorem matches_either_iff :
    Matches text (.either p q) i j ↔ Matches text p i j ∨ Matches text q i j := by
  constructor
  · intro h
    cases h with
    | left left => exact Or.inl left
    | right right => exact Or.inr right
  · rintro (left | right)
    · exact .left left
    · exact .right right

/-- A group matches what its body matches, whether it remembers that or not. -/
theorem matches_group_iff {remembers : Bool} :
    Matches text (.group remembers p) i j ↔ Matches text p i j := by
  constructor
  · intro h
    cases h with
    | group body => exact body
  · exact .group

/-- What may be left out matches nothing at all, or once. -/
theorem matches_optional_iff :
    Matches text (.repeated 0 (some 1) p) i j ↔ Matches text .empty i j ∨ Matches text p i j := by
  constructor
  · intro h
    cases h with
    | done bound => exact Or.inl (.empty bound)
    | again room first rest =>
      -- there is no room for a second match
      cases rest with
      | done bound => exact Or.inr first
      | again room => exact absurd rfl room
  · rintro (h | h)
    · obtain ⟨rfl, bound⟩ := matches_empty_iff.mp h
      exact .done bound
    · exact .again (by simp) h (.done h.bounds.2)

/-- Any number of matches is none, or one and then any number. -/
theorem matches_repeated_iff :
    Matches text (.repeated 0 none p) i k ↔
      Matches text .empty i k ∨ Matches text (.sequence p (.repeated 0 none p)) i k := by
  rw [matches_sequence_iff]
  constructor
  · intro h
    cases h with
    | done bound => exact Or.inl (.empty bound)
    | again room first rest => exact Or.inr ⟨_, first, rest⟩
  · rintro (h | ⟨j, first, rest⟩)
    · obtain ⟨rfl, bound⟩ := matches_empty_iff.mp h
      exact .done bound
    · exact .again (by simp) first rest

/-- One match at least is one and then any number. -/
theorem matches_repeated_one_iff :
    Matches text (.repeated 1 none p) i k ↔ Matches text (.sequence p (.repeated 0 none p)) i k := by
  rw [matches_sequence_iff]
  constructor
  · intro h
    cases h with
    | again room first rest => exact ⟨_, first, rest⟩
  · rintro ⟨j, first, rest⟩
    exact .again (by simp) first rest

theorem matches_sequences_cons_iff {ps : List Pattern} :
    Matches text (sequences (p :: ps)) i k ↔
      ∃ j, Matches text p i j ∧ Matches text (sequences ps) j k := by
  cases ps with
  | nil =>
    constructor
    · intro h
      exact ⟨k, h, .empty h.bounds.2⟩
    · rintro ⟨j, h, hempty⟩
      rwa [(matches_empty_iff.mp hempty).1]
  | cons q ps => exact matches_sequence_iff

/-- Parts that are put behind others match from where the others end. -/
theorem matches_sequences_append_iff {ps qs : List Pattern} :
    Matches text (sequences (ps ++ qs)) i k ↔
      ∃ j, Matches text (sequences ps) i j ∧ Matches text (sequences qs) j k := by
  induction ps generalizing i with
  | nil =>
    constructor
    · intro h
      exact ⟨i, .empty (Nat.le_trans h.bounds.1 h.bounds.2), h⟩
    · rintro ⟨j, hempty, h⟩
      rwa [← (matches_empty_iff.mp hempty).1]
  | cons p ps ih =>
    simp only [List.cons_append, matches_sequences_cons_iff, ih]
    constructor
    · rintro ⟨j, first, j', second, third⟩
      exact ⟨j', ⟨j, first, second⟩, third⟩
    · rintro ⟨j', ⟨j, first, second⟩, third⟩
      exact ⟨j, first, j', second, third⟩

/-! ## Stretches -/

/-- A position cuts a text in two. -/
theorem exists_append {count : Nat} (h : count ≤ text.length) :
    ∃ first second, text = first ++ second ∧ first.length = count :=
  ⟨text.take count, text.drop count, (List.take_append_drop count text).symm,
    List.length_take_of_le h⟩

/-- The positions of a match can be told by the stretches of text that they cut out. -/
theorem matches_iff_matchesAt (p : Pattern) (htext : text = front ++ stretch ++ back) :
    Matches text p front.length (front ++ stretch).length ↔ p.MatchesAt front stretch back := by
  rw [MatchesAt, htext, List.length_append]

/-- Where the text is cut at the positions of a match, the stretch between them is of the kind that
the pattern denotes. -/
theorem Denotes.matches_iff (hp : p.Denotes kind) (htext : text = front ++ stretch ++ back) :
    Matches text p front.length (front ++ stretch).length ↔ kind stretch :=
  (matches_iff_matchesAt p htext).trans (hp front stretch back)

/-- A sequence matches two stretches, one after the other. -/
theorem matchesAt_sequence_iff :
    (Pattern.sequence p q).MatchesAt front stretch back ↔
      ∃ first second, stretch = first ++ second ∧ p.MatchesAt front first (second ++ back) ∧
        q.MatchesAt (front ++ first) second back := by
  rw [MatchesAt, matches_sequence_iff]
  constructor
  · rintro ⟨j, hp, hq⟩
    obtain ⟨hlow, -⟩ := hp.bounds
    obtain ⟨hhigh, -⟩ := hq.bounds
    -- the position between the two matches cuts the stretch
    have hcut : j - front.length ≤ stretch.length := by omega
    obtain ⟨first, second, rfl, hfirst⟩ := exists_append hcut
    have hj : j = front.length + first.length := by omega
    subst hj
    simp only [List.append_assoc, List.length_append, ← Nat.add_assoc] at hp hq
    refine ⟨first, second, rfl, ?_, ?_⟩
    · simpa only [MatchesAt, List.append_assoc] using hp
    · simpa only [MatchesAt, List.append_assoc, List.length_append] using hq
  · rintro ⟨first, second, rfl, hp, hq⟩
    simp only [MatchesAt, List.append_assoc, List.length_append] at hp hq
    refine ⟨front.length + first.length, ?_, ?_⟩
    · simpa only [List.append_assoc] using hp
    · simpa only [List.append_assoc, List.length_append, ← Nat.add_assoc] using hq

theorem Denotes.congr (h : p.Denotes kind) (hkind : ∀ stretch, kind stretch ↔ kind' stretch) :
    p.Denotes kind' := fun front stretch back => (h front stretch back).trans (hkind stretch)

theorem denotes_empty : Denotes .empty fun stretch => stretch = [] := by
  intro front stretch back
  show _ ↔ stretch = []
  rw [MatchesAt, matches_empty_iff, ← List.length_eq_zero_iff]
  simp only [List.length_append]
  omega

/-- A set of characters denotes the texts of one character that is a member. -/
theorem denotes_one :
    (Pattern.one set).Denotes fun stretch => ∃ c, stretch = [c] ∧ set.contains c = true := by
  intro front stretch back
  rw [MatchesAt, matches_one_iff]
  constructor
  · rintro ⟨hlength, c, hchar, hmember⟩
    have hone : ∃ d, stretch = [d] := List.length_eq_one_iff.mp (Nat.add_left_cancel hlength)
    obtain ⟨d, rfl⟩ := hone
    have hfound : (front ++ [d] ++ back)[front.length]? = some d := by simp
    rw [hfound] at hchar
    cases hchar
    exact ⟨_, rfl, hmember⟩
  · rintro ⟨c, rfl, hmember⟩
    exact ⟨rfl, c, by simp, hmember⟩

/-- A single character denotes itself. -/
theorem denotes_single (c : Char) :
    (Pattern.one (.single c)).Denotes fun stretch => stretch = [c] :=
  denotes_one.congr fun stretch => by simp [Unicode.CharSet.contains_single]

/-- What a sequence matches is put together from what its parts match. -/
theorem Denotes.sequence (hp : p.Denotes kind) (hq : q.Denotes kind') :
    (Pattern.sequence p q).Denotes fun stretch =>
      ∃ first second, stretch = first ++ second ∧ kind first ∧ kind' second := by
  intro front stretch back
  rw [matchesAt_sequence_iff]
  refine exists_congr fun first => exists_congr fun second => and_congr_right fun _ => ?_
  rw [hp front first (second ++ back), hq (front ++ first) second back]

/-- What one of two patterns matches is of one kind or the other. -/
theorem Denotes.either (hp : p.Denotes kind) (hq : q.Denotes kind') :
    (Pattern.either p q).Denotes fun stretch => kind stretch ∨ kind' stretch := by
  intro front stretch back
  rw [MatchesAt, matches_either_iff]
  exact or_congr (hp front stretch back) (hq front stretch back)

theorem Denotes.group (hp : p.Denotes kind) (remembers : Bool) :
    (Pattern.group remembers p).Denotes kind := by
  intro front stretch back
  rw [MatchesAt, matches_group_iff]
  exact hp front stretch back

/-- What may be left out matches the empty text as well. -/
theorem Denotes.optional (hp : p.Denotes kind) :
    (Pattern.repeated 0 (some 1) p).Denotes fun stretch => stretch = [] ∨ kind stretch := by
  intro front stretch back
  show _ ↔ stretch = [] ∨ kind stretch
  rw [MatchesAt, matches_optional_iff]
  exact or_congr (denotes_empty front stretch back) (hp front stretch back)

/-- What a repeated pattern matches is put together from what the pattern matches. -/
theorem Denotes.exists_pieces (hp : p.Denotes kind) (h : Matches text (.repeated 0 none p) i j)
    (htext : text = front ++ stretch ++ back) (hi : i = front.length)
    (hj : j = i + stretch.length) :
    ∃ pieces : List Text, stretch = pieces.flatten ∧ ∀ piece ∈ pieces, kind piece := by
  generalize hq : Pattern.repeated 0 none p = q at h
  -- a piece may be empty, so the induction is on the match and not on its length
  induction h generalizing front stretch with
  | done bound =>
    have hnil : stretch = [] := List.length_eq_zero_iff.mp (Nat.add_eq_left.mp hj.symm)
    exact ⟨[], hnil, by simp⟩
  | again room first rest ihfirst ihrest =>
    cases hq
    rename_i start middle stop
    obtain ⟨hlow, -⟩ := first.bounds
    obtain ⟨hhigh, -⟩ := rest.bounds
    obtain ⟨piece, others, rfl, hpiece⟩ := exists_append (Nat.sub_le_iff_le_add'.mpr (hj ▸ hhigh))
    have hmiddle := Nat.add_sub_cancel' hlow
    rw [← hpiece] at hmiddle
    have hposition : middle = (front ++ piece).length := by
      rw [List.length_append, ← hi, hmiddle]
    have hkind : kind piece := by
      have hsame : text = front ++ piece ++ (others ++ back) := by simpa using htext
      rwa [hi, hposition, hp.matches_iff hsame] at first
    have hsame : text = front ++ piece ++ others ++ back := by simpa using htext
    have hlength : stop = middle + others.length := by
      rw [hj, List.length_append, ← Nat.add_assoc, hmiddle]
    obtain ⟨pieces, rfl, hpieces⟩ := ihrest hsame hposition hlength rfl
    exact ⟨piece :: pieces, rfl, List.forall_mem_cons.mpr ⟨hkind, hpieces⟩⟩
  | _ => cases hq

/-- A repeated pattern denotes the texts that are put together from pieces of its kind, in any
number. -/
theorem Denotes.many (hp : p.Denotes kind) :
    (Pattern.repeated 0 none p).Denotes fun stretch =>
      ∃ pieces : List Text, stretch = pieces.flatten ∧ ∀ piece ∈ pieces, kind piece := by
  intro front stretch back
  constructor
  · intro h
    exact hp.exists_pieces h rfl rfl rfl
  · rintro ⟨pieces, rfl, hpieces⟩
    induction pieces generalizing front with
    | nil => exact .done (by simp)
    | cons piece pieces ih =>
      obtain ⟨hpiece, hpieces⟩ := List.forall_mem_cons.mp hpieces
      have hfirst := (hp front piece (pieces.flatten ++ back)).mpr hpiece
      have hrest := ih (front ++ piece) hpieces
      have hsequence : (Pattern.sequence p (.repeated 0 none p)).MatchesAt front
          (piece ++ pieces.flatten) back :=
        matchesAt_sequence_iff.mpr ⟨piece, pieces.flatten, rfl, hfirst, hrest⟩
      exact matches_repeated_iff.mpr (Or.inr hsequence)

/-- At least one piece leaves a piece to begin with. -/
theorem Denotes.some (hp : p.Denotes kind) (hrest : (Pattern.repeated 0 none p).Denotes kind') :
    (Pattern.repeated 1 none p).Denotes fun stretch =>
      ∃ first second, stretch = first ++ second ∧ kind first ∧ kind' second := by
  intro front stretch back
  rw [MatchesAt, matches_repeated_one_iff]
  exact hp.sequence hrest front stretch back

/-! ## The ends of the text -/

/-- The start of the text is its first position only. -/
theorem matches_textStart_iff : Matches text (.anchor .textStart) i j ↔ i = 0 ∧ j = 0 := by
  rw [matches_anchor_iff]
  constructor
  · rintro ⟨rfl, hbound, hholds⟩
    cases j with
    | zero => exact ⟨rfl, rfl⟩
    | succ j =>
      have hchar : text[j]? = none := by simpa [Anchor.holds, before?] using hholds
      rw [List.getElem?_eq_none_iff] at hchar
      omega
  · rintro ⟨rfl, rfl⟩
    exact ⟨rfl, Nat.zero_le _, rfl⟩

/-- The end of the text is its last position only. -/
theorem matches_textEnd_iff :
    Matches text (.anchor .textEnd) i j ↔ i = text.length ∧ j = text.length := by
  rw [matches_anchor_iff]
  simp only [Anchor.holds, Option.isNone_iff_eq_none, List.getElem?_eq_none_iff]
  omega

/-! ## Lines -/

/-- Before the cut between two texts stands the last character of the first one, if there is one. -/
theorem before?_append (front back : Text) :
    before? (front ++ back) front.length = front.getLast? := by
  rcases List.eq_nil_or_concat front with rfl | ⟨rest, c, rfl⟩
  · rfl
  · simp [before?]

/-- A line starts at the start of the text and after each line feed. -/
theorem matches_lineStart_iff (htext : text = front ++ back) :
    Matches text (.anchor (.lineStart false)) front.length front.length ↔
      front = [] ∨ ∃ rest, front = rest ++ ['\n'] := by
  have hholds : Matches text (.anchor (.lineStart false)) front.length front.length ↔
      (front.getLast?.all (· == '\n')) = true := by
    rw [matches_anchor_iff, htext, before?_append]
    simp [Anchor.holds]
  rw [hholds]
  rcases List.eq_nil_or_concat front with rfl | ⟨rest, c, rfl⟩
  · simp
  · simp

/-- A line ends at the end of the text and before each line feed. -/
theorem matches_lineEnd_iff (htext : text = front ++ back) :
    Matches text (.anchor (.lineEnd false)) front.length front.length ↔
      back = [] ∨ ∃ rest, back = '\n' :: rest := by
  have hholds : Matches text (.anchor (.lineEnd false)) front.length front.length ↔
      (back.head?.all (· == '\n')) = true := by
    have hafter : (front ++ back)[front.length]? = back.head? := by
      rw [List.getElem?_append_right (Nat.le_refl _), Nat.sub_self, List.head?_eq_getElem?]
    rw [matches_anchor_iff, htext, hafter]
    simp [Anchor.holds]
  rw [hholds]
  cases back <;> simp

/-! ## Characters -/

/-- A repeated set of characters denotes the texts of its members. -/
theorem denotes_many_one :
    (Pattern.repeated 0 none (.one set)).Denotes fun stretch =>
      ∀ c ∈ stretch, set.contains c = true := by
  refine denotes_one.many.congr fun stretch => ?_
  constructor
  · rintro ⟨pieces, rfl, hpieces⟩ c hc
    obtain ⟨piece, hpiece, hc⟩ := List.mem_flatten.mp hc
    obtain ⟨d, rfl, hmember⟩ := hpieces piece hpiece
    rwa [List.mem_singleton.mp hc]
  · intro h
    refine ⟨stretch.map ([·]), (List.flatMap_singleton' stretch).symm, fun piece hpiece => ?_⟩
    obtain ⟨c, hc, rfl⟩ := List.mem_map.mp hpiece
    exact ⟨c, rfl, h c hc⟩

/-- A set of characters that is repeated at least once denotes the texts of its members but the
empty one. -/
theorem denotes_some_one :
    (Pattern.repeated 1 none (.one set)).Denotes fun stretch =>
      stretch ≠ [] ∧ ∀ c ∈ stretch, set.contains c = true := by
  refine (denotes_one.some denotes_many_one).congr fun stretch => ?_
  constructor
  · rintro ⟨first, second, rfl, ⟨c, rfl, hmember⟩, hsecond⟩
    exact ⟨by simp, List.forall_mem_cons.mpr ⟨hmember, hsecond⟩⟩
  · rintro ⟨hne, h⟩
    obtain ⟨c, rest, rfl⟩ := List.exists_cons_of_ne_nil hne
    obtain ⟨hmember, hrest⟩ := List.forall_mem_cons.mp h
    exact ⟨[c], rest, rfl, ⟨c, rfl, hmember⟩, hrest⟩

/-! ## Sequences -/

/-- What a part denotes is followed by what the parts after it denote. -/
theorem Denotes.cons {ps : List Pattern} (hp : p.Denotes kind)
    (hps : (sequences ps).Denotes kind') :
    (sequences (p :: ps)).Denotes fun stretch =>
      ∃ first second, stretch = first ++ second ∧ kind first ∧ kind' second := by
  intro front stretch back
  have hsequence : (sequences (p :: ps)).MatchesAt front stretch back ↔
      (Pattern.sequence p (sequences ps)).MatchesAt front stretch back := by
    rw [MatchesAt, MatchesAt, matches_sequences_cons_iff, matches_sequence_iff]
  rw [hsequence]
  exact hp.sequence hps front stretch back

/-- What some parts denote is followed by what the parts after them denote. -/
theorem Denotes.append {ps qs : List Pattern} (hps : (sequences ps).Denotes kind)
    (hqs : (sequences qs).Denotes kind') :
    (sequences (ps ++ qs)).Denotes fun stretch =>
      ∃ first second, stretch = first ++ second ∧ kind first ∧ kind' second := by
  intro front stretch back
  have hsequence : (sequences (ps ++ qs)).MatchesAt front stretch back ↔
      (Pattern.sequence (sequences ps) (sequences qs)).MatchesAt front stretch back := by
    rw [MatchesAt, MatchesAt, matches_sequences_append_iff, matches_sequence_iff]
  rw [hsequence]
  exact hps.sequence hqs front stretch back

/-- A word denotes itself. -/
theorem denotes_word (word : Text) :
    (sequences (word.map fun c => .one (.single c))).Denotes fun stretch => stretch = word := by
  induction word with
  | nil => exact denotes_empty
  | cons c word ih =>
    refine ((denotes_single c).cons ih).congr fun stretch => ?_
    simp

/-! ## Groups -/

/-- Where a group has captured something, the whole pattern matches. -/
theorem Captures.matches {a b : Nat} (h : Captures text p i j a b) : Matches text p i j := by
  induction h with
  | group body => exact .group body
  | first first second ih => exact .sequence ih second
  | second first second ih => exact .sequence first ih

/-- A pattern without groups captures nothing. -/
theorem not_captures_of_hasGroup {a b : Nat} (h : p.hasGroup = false) :
    ¬ Captures text p i j a b := by
  intro hcaptures
  induction hcaptures with
  | group body => exact absurd h (by simp [hasGroup])
  | first first second ih =>
    simp only [hasGroup, Bool.or_eq_false_iff] at h
    exact ih h.1
  | second first second ih =>
    simp only [hasGroup, Bool.or_eq_false_iff] at h
    exact ih h.2

/-- In a sequence, the group is in one of the two parts, and the other part only matches. -/
theorem captures_sequence_iff {a b : Nat} :
    Captures text (.sequence p q) i k a b ↔
      (∃ j, Captures text p i j a b ∧ Matches text q j k) ∨
        ∃ j, Matches text p i j ∧ Captures text q j k a b := by
  constructor
  · intro h
    cases h with
    | first first second => exact Or.inl ⟨_, first, second⟩
    | second first second => exact Or.inr ⟨_, first, second⟩
  · rintro (⟨j, first, second⟩ | ⟨j, first, second⟩)
    · exact .first first second
    · exact .second first second

/-- The group itself captures all that it matches. -/
theorem captures_group_iff {a b : Nat} :
    Captures text (.group true p) i j a b ↔ Matches text p i j ∧ a = i ∧ b = j := by
  constructor
  · intro h
    cases h with
    | group body => exact ⟨body, rfl, rfl⟩
  · rintro ⟨body, rfl, rfl⟩
    exact .group body

/-- Among several parts, the group is in the first one or in those after it. -/
theorem captures_sequences_cons_iff {ps : List Pattern} {a b : Nat} :
    Captures text (sequences (p :: ps)) i k a b ↔
      (∃ j, Captures text p i j a b ∧ Matches text (sequences ps) j k) ∨
        ∃ j, Matches text p i j ∧ Captures text (sequences ps) j k a b := by
  cases ps with
  | nil =>
    constructor
    · intro h
      exact Or.inl ⟨k, h, .empty h.matches.bounds.2⟩
    · rintro (⟨j, h, hempty⟩ | ⟨j, -, h⟩)
      · rwa [(matches_empty_iff.mp hempty).1]
      · exact absurd h (not_captures_of_hasGroup rfl)
  | cons q ps => exact captures_sequence_iff

/-- A sequence with one group is matched up to the group, by the group, and after it. -/
theorem captures_sequences_iff {ps qs : List Pattern} {a b : Nat}
    (hps : ∀ part ∈ ps, part.hasGroup = false) (hqs : (sequences qs).hasGroup = false) :
    Captures text (sequences (ps ++ .group true p :: qs)) i k a b ↔
      Matches text (sequences ps) i a ∧ Matches text p a b ∧ Matches text (sequences qs) b k := by
  induction ps generalizing i with
  | nil =>
    rw [List.nil_append, captures_sequences_cons_iff]
    constructor
    · -- what comes after the group has none
      rintro (⟨j, hgroup, h⟩ | ⟨j, -, h⟩)
      · obtain ⟨hbody, rfl, rfl⟩ := captures_group_iff.mp hgroup
        exact ⟨.empty (Nat.le_trans hbody.bounds.1 hbody.bounds.2), hbody, h⟩
      · exact absurd h (not_captures_of_hasGroup hqs)
    · rintro ⟨hempty, hbody, h⟩
      rw [← (matches_empty_iff.mp hempty).1]
      exact Or.inl ⟨b, .group hbody, h⟩
  | cons part ps ih =>
    obtain ⟨hpart, hps⟩ := List.forall_mem_cons.mp hps
    rw [List.cons_append, captures_sequences_cons_iff]
    simp only [ih hps, not_captures_of_hasGroup hpart, false_and, exists_false, false_or,
      matches_sequences_cons_iff, exists_and_right, ← and_assoc]

/-- Where such a sequence matches, its group has captured something. -/
theorem exists_captures_iff {ps qs : List Pattern} (hps : ∀ part ∈ ps, part.hasGroup = false)
    (hqs : (sequences qs).hasGroup = false) :
    (∃ a b, Captures text (sequences (ps ++ .group true p :: qs)) i k a b) ↔
      Matches text (sequences (ps ++ .group true p :: qs)) i k := by
  simp only [captures_sequences_iff hps hqs, matches_sequences_append_iff,
    matches_sequences_cons_iff, matches_group_iff, exists_and_left]

/-! ## Several groups -/

/-- Where the groups have matched what they remember, the whole pattern matches. -/
theorem Remembers.matches {found : List Text} (h : Remembers text p i j found) :
    Matches text p i j := by
  induction h with
  | nothing groupless whole => exact whole
  | group body => exact .group body
  | sequence first second ihfirst ihsecond => exact .sequence ihfirst ihsecond

theorem remembers_anchor_iff {a : Anchor} {found : List Text} :
    Remembers text (.anchor a) i j found ↔ Matches text (.anchor a) i j ∧ found = [] := by
  constructor
  · intro h
    cases h with
    | nothing groupless whole => exact ⟨whole, rfl⟩
  · rintro ⟨whole, rfl⟩
    exact .nothing rfl whole

/-- A group remembers the stretch that it matches. -/
theorem remembers_group_iff {found : List Text} :
    Remembers text (.group true p) i j found ↔
      Matches text p i j ∧ found = [(text.take j).drop i] := by
  constructor
  · intro h
    cases h with
    | nothing groupless whole => exact absurd groupless (by simp [hasGroup])
    | group body => exact ⟨body, rfl⟩
  · rintro ⟨body, rfl⟩
    exact .group body

/-- What the groups of a sequence remember is what those of its parts remember, one after the
other. -/
theorem remembers_sequence_iff {found : List Text} :
    Remembers text (.sequence p q) i k found ↔
      ∃ j first second, Remembers text p i j first ∧ Remembers text q j k second ∧
        found = first ++ second := by
  constructor
  · intro h
    cases h with
    | nothing groupless whole =>
      -- a sequence without groups has none in its parts
      simp only [hasGroup, Bool.or_eq_false_iff] at groupless
      obtain ⟨j, hp, hq⟩ := matches_sequence_iff.mp whole
      exact ⟨j, [], [], .nothing groupless.1 hp, .nothing groupless.2 hq, rfl⟩
    | sequence first second => exact ⟨_, _, _, first, second, rfl⟩
  · rintro ⟨j, first, second, hp, hq, rfl⟩
    exact .sequence hp hq

/-- A sequence of two groups between the ends of the text cuts the whole text in two, and what the
groups match are the two parts. -/
theorem findsGroups_iff_append (hp : p.Denotes kind) (hq : q.Denotes kind') {first second : Text} :
    (sequences [.anchor .textStart, .group true p, .group true q, .anchor .textEnd]).FindsGroups text
        [first, second] ↔
      kind first ∧ kind' second ∧ text = first ++ second := by
  -- a match runs from one end to the other, and is given by where it is cut
  have hmatch : ∀ {i k : Nat} {found : List Text},
      Remembers text (sequences [.anchor .textStart, .group true p, .group true q, .anchor .textEnd])
          i k found ↔
        ∃ cut, Matches text p 0 cut ∧ Matches text q cut text.length ∧ i = 0 ∧ k = text.length ∧
          found = [text.take cut, (text.take text.length).drop cut] := by
    intro i k found
    simp only [sequences, remembers_sequence_iff, remembers_anchor_iff, remembers_group_iff,
      matches_textStart_iff, matches_textEnd_iff]
    constructor
    · rintro ⟨_, _, _, ⟨⟨rfl, rfl⟩, rfl⟩, ⟨cut, _, _, ⟨hp, rfl⟩, ⟨_, _, _, ⟨hq, rfl⟩,
        ⟨⟨rfl, rfl⟩, rfl⟩, rfl⟩, rfl⟩, rfl⟩
      exact ⟨cut, hp, hq, rfl, rfl, rfl⟩
    · rintro ⟨cut, hp, hq, rfl, rfl, rfl⟩
      exact ⟨0, [], _, ⟨⟨rfl, rfl⟩, rfl⟩, ⟨cut, _, _, ⟨hp, rfl⟩, ⟨_, _, [], ⟨hq, rfl⟩,
        ⟨⟨rfl, rfl⟩, rfl⟩, rfl⟩, rfl⟩, rfl⟩
  constructor
  · rintro ⟨i, k, hremembers, -⟩
    obtain ⟨cut, hfirst, hsecond, -, -, hfound⟩ := hmatch.mp hremembers
    obtain ⟨front, back, rfl, rfl⟩ := exists_append hsecond.bounds.1
    simp only [List.take_left, List.take_length, List.drop_left, List.cons.injEq, and_true] at hfound
    obtain ⟨rfl, rfl⟩ := hfound
    have hstart : first ++ second = [] ++ first ++ second := rfl
    have hend : first ++ second = first ++ second ++ [] := (List.append_nil _).symm
    exact ⟨(hp.matches_iff hstart).mp hfirst, (hq.matches_iff hend).mp hsecond, rfl⟩
  · rintro ⟨hfirst, hsecond, rfl⟩
    have hstart : first ++ second = [] ++ first ++ second := rfl
    have hend : first ++ second = first ++ second ++ [] := (List.append_nil _).symm
    refine ⟨0, (first ++ second).length, hmatch.mpr ⟨first.length, ?_, ?_, rfl, rfl, ?_⟩,
      fun i' j' _ => Nat.zero_le i'⟩
    · exact (hp.matches_iff hstart).mpr hfirst
    · exact (hq.matches_iff hend).mpr hsecond
    · simp only [List.take_left, List.take_length, List.drop_left]

end JvmSource.Pattern
