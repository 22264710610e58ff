import Mathlib.Data.List.Infix
import Mathlib.Tactic.Common
import JvmSource.Proofs.DocComment.Clean

/-!
# Where escaping puts spaces

Two delimiter characters meet at a place of a text if one is spelled up to there and the other from
there on. Escaping puts a space at each of these places and changes nothing else.

The text is scanned from left to right, and a spelling that was found is passed over as a whole.
This misses nothing: a spelling starts with a character that no spelling goes on with, so none
reaches over the end of another one. `Scanned` says this of the two parts of a text that a scan
stands between.
-/

namespace JvmSource.DocComment

variable {text front back spelled left right : Text} {delimiter other : Delimiter}
  {previous : Option Delimiter} {c : Char}

/-! ## Places where delimiters meet -/

/-- Whether a delimiter character is spelled at the end of a text. -/
def EndsWith (delimiter : Delimiter) (text : Text) : Prop :=
  ∃ spelled, Spelling delimiter spelled ∧ spelled <:+ text

/-- Whether a delimiter character is spelled at the start of a text. -/
def StartsWith (delimiter : Delimiter) (text : Text) : Prop :=
  ∃ spelled, Spelling delimiter spelled ∧ spelled <+: text

/-- Whether a star and a slash, or a slash and a star, meet at a place of a text. Each may be
written as it is or as an escape, whatever stands before its backslash. -/
def MeetAt (text : Text) (place : Nat) : Prop :=
  EndsWith .star (text.take place) ∧ StartsWith .slash (text.drop place) ∨
    EndsWith .slash (text.take place) ∧ StartsWith .star (text.drop place)

/-- A delimiter is spelled at the start of a text when the escape finds it there. -/
theorem startsWith_iff :
    StartsWith delimiter text ↔ ∃ length, delimiter? text = some (delimiter, length) := by
  constructor
  · rintro ⟨spelled, hspelled, hbegins⟩
    exact ⟨spelled.length, delimiter?_of_spelled hspelled hbegins⟩
  · rintro ⟨length, hfound⟩
    obtain ⟨spelled, rest, rfl, hspelled, -⟩ := spelling_of_delimiter? hfound
    exact ⟨spelled, hspelled, List.prefix_append spelled rest⟩

/-- A delimiter is spelled at the end of a text when the escape finds it in a tail and nothing is
left. -/
theorem endsWith_iff :
    EndsWith delimiter text ↔
      ∃ tail ∈ text.tails, delimiter? tail = some (delimiter, tail.length) := by
  simp only [List.mem_tails]
  constructor
  · rintro ⟨spelled, hspelled, hends⟩
    exact ⟨spelled, hends, delimiter?_of_spelled hspelled (List.prefix_refl spelled)⟩
  · rintro ⟨tail, hends, hfound⟩
    obtain ⟨spelled, rest, rfl, hspelled, hlength⟩ := spelling_of_delimiter? hfound
    have hrest : rest = [] := by simpa using hlength
    rw [hrest, List.append_nil] at hends
    exact ⟨spelled, hspelled, hends⟩

instance (delimiter : Delimiter) (text : Text) : Decidable (StartsWith delimiter text) :=
  decidable_of_iff ((delimiter? text).map Prod.fst = some delimiter) (by
    rw [startsWith_iff, Option.map_eq_some_iff]
    constructor
    · rintro ⟨⟨found, length⟩, hfound, rfl⟩
      exact ⟨length, hfound⟩
    · rintro ⟨length, hfound⟩
      exact ⟨(delimiter, length), hfound, rfl⟩)

instance (delimiter : Delimiter) (text : Text) : Decidable (EndsWith delimiter text) :=
  decidable_of_iff _ endsWith_iff.symm

instance (text : Text) (place : Nat) : Decidable (MeetAt text place) :=
  inferInstanceAs (Decidable (_ ∨ _))

/-- Delimiters meet where one ends and another starts that forms a pair with it. -/
theorem meetAt_iff {place : Nat} :
    MeetAt text place ↔ ∃ first second : Delimiter, first.meets second = true ∧
      EndsWith first (text.take place) ∧ StartsWith second (text.drop place) := by
  constructor
  · rintro (⟨hends, hstarts⟩ | ⟨hends, hstarts⟩)
    · exact ⟨.star, .slash, rfl, hends, hstarts⟩
    · exact ⟨.slash, .star, rfl, hends, hstarts⟩
  · rintro ⟨first, second, hmeets, hends, hstarts⟩
    match first, second, hmeets with
    | .star, .slash, _ => exact Or.inl ⟨hends, hstarts⟩
    | .slash, .star, _ => exact Or.inr ⟨hends, hstarts⟩

/-- In a clean text no delimiter characters meet. -/
theorem Clean.not_meetAt (h : Clean text) (place : Nat) : ¬ MeetAt text place := by
  rw [meetAt_iff]
  rintro ⟨first, second, hmeets, ⟨left, hleft, hends⟩, ⟨right, hright, hstarts⟩⟩
  obtain ⟨before, hbefore⟩ := hends
  obtain ⟨after, hafter⟩ := hstarts
  refine h (left ++ right) (.mk hleft hright hmeets) ⟨before, after, ?_⟩
  calc before ++ (left ++ right) ++ after = (before ++ left) ++ (right ++ after) := by simp
    _ = text := by rw [hbefore, hafter, List.take_append_drop]

/-! ## Spellings do not overlap -/

theorem not_spelling_nil : ¬ Spelling delimiter [] := by
  intro hspelled
  obtain ⟨first, inside, hcons, -⟩ := exists_cons_of_spelling hspelled
  exact absurd hcons (by simp)

/-- Nothing stands before the start of a spelling. -/
theorem eq_nil_of_spelling (h : Spelling delimiter (left ++ c :: right)) (hc : isStart c = true) :
    left = [] := by
  obtain ⟨first, inside, hcons, -, hinside⟩ := exists_cons_of_spelling h
  cases left with
  | nil => rfl
  | cons head left =>
    obtain ⟨-, hrest⟩ := List.cons.inj hcons
    have hinner : isInside c = true := hinside c (by simp [← hrest])
    rw [isStart_of_isInside hinner] at hc
    exact absurd hc (by simp)

/-- A part of a spelling that starts it and ends like another spelling is that spelling. -/
theorem eq_of_spelling (h : Spelling delimiter (left ++ right)) (hne : left ≠ [])
    (hspelled : Spelling other spelled) (hleft : left <:+ front ++ spelled) : left = spelled := by
  obtain ⟨first, inside, hcons, hfirst, -⟩ := exists_cons_of_spelling h
  obtain ⟨start, more, rfl, hstart, -⟩ := exists_cons_of_spelling hspelled
  rcases List.suffix_or_suffix_of_suffix hleft (List.suffix_append front _) with hends | hends
  · obtain ⟨before, hbefore⟩ := hends
    obtain ⟨head, rest, rfl⟩ := List.exists_cons_of_ne_nil hne
    obtain rfl : head = first := (List.cons.inj hcons).1
    rw [← hbefore] at hspelled
    rw [eq_nil_of_spelling hspelled hfirst] at hbefore
    exact hbefore
  · obtain ⟨before, rfl⟩ := hends
    rw [List.append_assoc, List.cons_append] at h
    rw [eq_nil_of_spelling h hstart, List.nil_append]

/-- No spelling is a proper prefix of another. -/
theorem eq_nil_of_spelling_append (h : Spelling delimiter (spelled ++ right))
    (hspelled : Spelling other spelled) : right = [] := by
  have hwhole := delimiter?_of_spelled h (List.prefix_refl _)
  obtain ⟨-, hlength⟩ := eq_of_delimiter? hwhole hspelled (List.prefix_append spelled right)
  simpa using hlength

/-! ## How far a scan has come -/

/-- What a scan that stands between two parts of a text has found: the delimiter character that the
first part ends with, if any. No spelling reaches from one part into the other. -/
structure Scanned (previous : Option Delimiter) (front back : Text) : Prop where
  ends : ∀ delimiter, EndsWith delimiter front ↔ previous = some delimiter
  apart : ∀ delimiter left right, Spelling delimiter (left ++ right) → left <:+ front →
    right <+: back → left = [] ∨ right = []

theorem scanned_start (text : Text) : Scanned none [] text where
  ends delimiter := by
    refine iff_of_false ?_ (by simp)
    rintro ⟨spelled, hspelled, hends⟩
    rw [List.suffix_nil.mp hends] at hspelled
    exact not_spelling_nil hspelled
  apart _ _ _ _ hleft _ := Or.inl (List.suffix_nil.mp hleft)

/-- A character that starts no spelling belongs to none. -/
theorem Scanned.skip (h : Scanned previous front (c :: back))
    (hnone : delimiter? (c :: back) = none) : Scanned none (front ++ [c]) back := by
  have hfront : ∀ delimiter left right, Spelling delimiter (left ++ right) →
      left <:+ front ++ [c] → right <+: back → left = [] := by
    intro delimiter left right hspelled hleft hright
    rcases List.suffix_concat_iff.mp hleft with rfl | ⟨start, rfl, hstart⟩
    · rfl
    · -- the character would have been passed over, or would start the spelling
      rw [List.append_assoc, List.singleton_append] at hspelled
      have hbegins : c :: right <+: c :: back := List.cons_prefix_cons.mpr ⟨rfl, hright⟩
      rcases h.apart delimiter start (c :: right) hspelled hstart hbegins with rfl | hnil
      · exact absurd hbegins (not_starts_of_delimiter? hnone hspelled)
      · exact absurd hnil (by simp)
  constructor
  · intro delimiter
    refine iff_of_false ?_ (by simp)
    rintro ⟨spelled, hspelled, hends⟩
    rw [hfront delimiter spelled [] (by simpa using hspelled) hends List.nil_prefix] at hspelled
    exact not_spelling_nil hspelled
  · intro delimiter left right hspelled hleft hright
    exact Or.inl (hfront delimiter left right hspelled hleft hright)

/-- A spelling that was found is passed over as a whole. -/
theorem Scanned.pass (h : Spelling delimiter spelled) (front back : Text) :
    Scanned (some delimiter) (front ++ spelled) back := by
  constructor
  · intro other
    constructor
    · rintro ⟨found, hfound, hends⟩
      have hne : found ≠ [] := by
        rintro rfl
        exact not_spelling_nil hfound
      have hwhole : Spelling other (found ++ []) := by simpa using hfound
      have hsame : found = spelled := eq_of_spelling hwhole hne h hends
      have hother := delimiter?_of_spelled (hsame ▸ hfound) (List.prefix_refl spelled)
      rw [(eq_of_delimiter? hother h (List.prefix_refl spelled)).1]
    · rintro hother
      cases hother
      exact ⟨spelled, h, List.suffix_append front spelled⟩
  · intro other left right hspelled hleft _
    by_cases hne : left = []
    · exact Or.inl hne
    · rw [eq_of_spelling hspelled hne h hleft] at hspelled
      exact Or.inr (eq_nil_of_spelling_append hspelled h)

/-! ## Escaping -/

/-- Where a scan finds a delimiter, it meets another when the one found just before forms a pair
with it. -/
theorem meetAt_of_scanned (h : Scanned previous front back) {length : Nat}
    (hfound : delimiter? back = some (delimiter, length)) :
    MeetAt (front ++ back) front.length ↔ previous.any (·.meets delimiter) = true := by
  rw [meetAt_iff, List.take_left, List.drop_left, Option.any_eq_true]
  constructor
  · rintro ⟨first, second, hmeets, hends, hstarts⟩
    obtain ⟨length', hfound'⟩ := startsWith_iff.mp hstarts
    rw [hfound] at hfound'
    cases hfound'
    exact ⟨first, (h.ends first).mp hends, hmeets⟩
  · rintro ⟨first, hfirst, hmeets⟩
    exact ⟨first, delimiter, hmeets, (h.ends first).mpr hfirst, startsWith_iff.mpr ⟨length, hfound⟩⟩

/-- Nothing meets at a place where no spelling starts. -/
theorem not_meetAt_of_delimiter? (hnone : delimiter? back = none) (front : Text) :
    ¬ MeetAt (front ++ back) front.length := by
  rw [meetAt_iff, List.drop_left]
  rintro ⟨first, second, -, -, hstarts⟩
  obtain ⟨length, hfound⟩ := startsWith_iff.mp hstarts
  rw [hnone] at hfound
  exact absurd hfound (by simp)

theorem delimiter?_of_not_isStart (h : isStart c = false) (rest : Text) :
    delimiter? (c :: rest) = none := by
  cases hfound : delimiter? (c :: rest) with
  | none => rfl
  | some found =>
    obtain ⟨spelled, after, htext, hspelled, -⟩ := spelling_of_delimiter? hfound
    exact absurd (htext ▸ List.prefix_append spelled after) (not_starts_of_isStart h hspelled)

/-- A character of a text that stands at a place, with a space before it if delimiter characters
meet there. -/
def separated (text : Text) : Char × Nat → Text
  | (c, place) => if MeetAt text place then [' ', c] else [c]

/-- From any point on, escaping puts spaces where delimiter characters meet in the whole text. -/
theorem escapeFrom_eq {inside : Nat} {rest : Text}
    (hinside : ∀ c ∈ rest.take inside, isInside c = true)
    (h : Scanned previous (front ++ rest.take inside) (rest.drop inside)) :
    escapeFrom previous inside rest =
      (rest.zipIdx front.length).flatMap (separated (front ++ rest)) := by
  induction rest generalizing previous inside front with
  | nil => cases inside <;> rfl
  | cons c rest ih =>
    -- wherever the scan goes on behind the first character, that character is in front of it
    have hnext : ∀ previous inside, (∀ c ∈ rest.take inside, isInside c = true) →
        Scanned previous (front ++ [c] ++ rest.take inside) (rest.drop inside) →
        escapeFrom previous inside rest =
          (rest.zipIdx (front.length + 1)).flatMap (separated (front ++ c :: rest)) := by
      intro previous inside hinside h
      have hrest := ih hinside h
      rwa [List.append_assoc, List.singleton_append, List.length_append,
        List.length_singleton] at hrest
    rw [List.zipIdx_cons, List.flatMap_cons, separated]
    cases inside with
    | succ inside =>
      -- within a spelling no other one starts
      have hnone := delimiter?_of_not_isStart (isStart_of_isInside (hinside c (by simp))) rest
      rw [if_neg (not_meetAt_of_delimiter? hnone front), escapeFrom, hnext previous inside]
      · rfl
      · exact fun d hd => hinside d (List.mem_cons_of_mem c hd)
      · rwa [List.append_assoc]
    | zero =>
      have hscanned : Scanned previous front (c :: rest) := by simpa using h
      rw [escapeFrom]
      cases hfound : delimiter? (c :: rest) with
      | none =>
        rw [if_neg (not_meetAt_of_delimiter? hfound front)]
        simp only
        rw [hnext none 0 (by simp) (by simpa using hscanned.skip hfound)]
        rfl
      | some found =>
        obtain ⟨delimiter, length⟩ := found
        obtain ⟨spelled, after, htext, hspelled, rfl⟩ := spelling_of_delimiter? hfound
        obtain ⟨start, others, rfl, -, hothers⟩ := exists_cons_of_spelling hspelled
        obtain ⟨rfl, rfl⟩ := List.cons.inj htext
        have hlength : (c :: others).length - 1 = others.length := rfl
        have hpast := hnext (some delimiter) others.length (by simpa using hothers)
          (by simpa using Scanned.pass hspelled front after)
        simp only [hlength, hpast, meetAt_of_scanned hscanned hfound]

/-- The escape of a text writes each character with a space before it where delimiters meet. -/
theorem escape_eq (text : Text) : escape text = text.zipIdx.flatMap (separated text) := by
  have hscanned : Scanned none ([] ++ text.take 0) (text.drop 0) := scanned_start text
  exact escapeFrom_eq (by simp) hscanned

theorem flatMap_characters (text : Text) : text.zipIdx.flatMap (fun entry => [entry.1]) = text :=
  (List.flatMap_pure_eq_map Prod.fst text.zipIdx).trans (List.zipIdx_map_fst 0 text)

/-- A text in which no delimiter characters meet stays as it is. -/
theorem escape_of_not_meetAt (h : ∀ place, ¬ MeetAt text place) : escape text = text := by
  have hsingle : ∀ entry, separated text entry = [entry.1] := fun entry => if_neg (h entry.2)
  rw [escape_eq, List.flatMap_congr fun entry _ => hsingle entry, flatMap_characters]

/-- Escaping changes nothing but spaces. -/
theorem filter_escape (text : Text) : (escape text).filter (· != ' ') = text.filter (· != ' ') := by
  have hone : ∀ entry, (separated text entry).filter (· != ' ') = [entry.1].filter (· != ' ') := by
    intro entry
    show (if MeetAt text entry.2 then [' ', entry.1] else [entry.1]).filter (· != ' ') = _
    split <;> rfl
  rw [escape_eq, List.filter_flatMap, List.flatMap_congr fun entry _ => hone entry,
    ← List.filter_flatMap, flatMap_characters]

/-- Escaping puts one space at each place where a star and a slash meet, plain or escaped, and does
nothing else. So it changes spaces only, a text in which none meet stays as it is, and escaping
again changes nothing. -/
theorem escape_separates (text : Text) :
    escape text = text.zipIdx.flatMap (separated text) ∧
      (escape text).filter (· != ' ') = text.filter (· != ' ') ∧
      (escape text = text ↔ ∀ place, ¬ MeetAt text place) ∧
      escape (escape text) = escape text := by
  refine ⟨escape_eq text, filter_escape text, ⟨?_, escape_of_not_meetAt⟩, ?_⟩
  · intro hsame place
    have hclean : Clean text := hsame ▸ clean_escape text
    exact hclean.not_meetAt place
  · exact escape_of_not_meetAt (clean_escape text).not_meetAt

/-- A slash that stands between two stars meets both. -/
example : (List.range 8).filter (MeetAt "*/\\u002a".toList ·) = [1, 2] := by decide

end JvmSource.DocComment
