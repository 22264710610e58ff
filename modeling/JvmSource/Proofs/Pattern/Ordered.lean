import JvmSource.Pattern.Meaning
import JvmSource.Proofs.Pattern.Reading
import JvmSource.Proofs.Pattern.Search

/-!
# Repetitions that are read are ordered

A repetition whose limit is below its least number is refused when a pattern is read, so a search
finds what the pattern matches, for every pattern that was read.
-/

namespace JvmSource.Pattern

mutual

/-- Whether no repetition in an expression has a limit below its least number. -/
def Expr.IsOrdered : Expr → Prop
  | .repeated least most body => (∀ limit ∈ most, least ≤ limit) ∧ body.IsOrdered
  | .group _ body => body.IsOrdered
  | .capture body => body.IsOrdered
  | .either branches => Expr.AreOrdered branches
  | .sequence parts => Expr.AreOrdered parts
  | _ => True

/-- Whether this is so for all of several expressions. -/
def Expr.AreOrdered : List Expr → Prop
  | [] => True
  | expr :: exprs => expr.IsOrdered ∧ Expr.AreOrdered exprs

end

variable {input after : Input} {part expr : Expr} {exprs : List Expr}

/-! ## Expressions that are read -/

/-- A list of expressions is ordered when each of them is. -/
theorem Expr.areOrdered_iff : Expr.AreOrdered exprs ↔ ∀ expr ∈ exprs, expr.IsOrdered := by
  induction exprs with
  | nil => simp [Expr.AreOrdered]
  | cons expr exprs ih => rw [Expr.AreOrdered, ih, List.forall_mem_cons]

/-- A sequence of ordered expressions is ordered. -/
theorem ordered_sequenceOf (h : ∀ expr ∈ exprs, expr.IsOrdered) :
    (sequenceOf exprs).IsOrdered := by
  unfold sequenceOf
  split
  · trivial
  · exact h _ List.mem_cons_self
  · exact Expr.areOrdered_iff.mpr h

/-- A choice between ordered expressions is ordered. -/
theorem ordered_eitherOf (h : ∀ expr ∈ exprs, expr.IsOrdered) : (eitherOf exprs).IsOrdered := by
  unfold eitherOf
  split
  · exact h _ List.mem_cons_self
  · exact Expr.areOrdered_iff.mpr h

theorem readProperty?_ordered {negated : Bool}
    (h : readProperty? negated input = some (part, after)) : part.IsOrdered := by
  simp only [readProperty?] at h
  split at h
  · cases h
  · cases h
  · split at h
    · cases h
      trivial
    · cases h
  · cases h
    trivial

theorem readBoundary?_ordered (h : readBoundary? input = some (part, after)) :
    part.IsOrdered := by
  simp only [readBoundary?] at h
  repeat' split at h
  all_goals cases h
  all_goals trivial

/-- What an escape is read as is ordered. -/
theorem readEscape?_ordered (h : readEscape? input = some (part, after)) : part.IsOrdered := by
  simp only [readEscape?] at h
  split at h
  -- all but properties and boundaries are literals, letters or assertions
  all_goals first
    | exact readProperty?_ordered h
    | exact readBoundary?_ordered h
    | (cases h; done)
    | cases h; trivial
    | obtain ⟨read, -, h⟩ := Option.bind_eq_some_iff.mp h; cases h; trivial
    | split at h <;> cases h; trivial

/-- A set, an escape or a single character is read as something ordered. -/
theorem readPart?_ordered (h : readPart? input = some (part, after)) : part.IsOrdered := by
  simp only [readPart?] at h
  split at h
  · cases h
  · simp only [readBracket?] at h
    obtain ⟨read, -, h⟩ := Option.bind_eq_some_iff.mp h
    cases h
    trivial
  · exact readEscape?_ordered h
  · obtain ⟨part, hsymbol, h⟩ := Option.map_eq_some_iff.mp h
    cases h
    simp only [symbol?] at hsymbol
    repeat' split at hsymbol
    all_goals cases hsymbol
    all_goals trivial

/-- Repeating the last of the ordered parts leaves them ordered when the limits are in order. -/
theorem repeatLast?_ordered {least : Nat} {most : Option Nat} {parts parts' : List Expr}
    (h : repeatLast? least most parts = some parts') (hbounds : ∀ limit ∈ most, least ≤ limit)
    (hparts : ∀ part ∈ parts, part.IsOrdered) : ∀ part ∈ parts', part.IsOrdered := by
  cases parts with
  | nil => cases h
  | cons last parts =>
    obtain ⟨hlast, hothers⟩ := List.forall_mem_cons.mp hparts
    have heq : parts' = .repeated least most last :: parts := by
      cases last <;> cases h <;> rfl
    rw [heq]
    exact List.forall_mem_cons.mpr ⟨⟨hbounds, hlast⟩, hothers⟩

/-- What has been read before a stage. -/
def Stage.done : Stage → List Expr
  | .branches done => done
  | .parts done => done

/-- Every expression that is read is ordered, because the reader refuses limits out of order. -/
theorem Reads.ordered {stage : Stage} (h : Reads stage input expr after)
    (hdone : ∀ part ∈ stage.done, part.IsOrdered) : expr.IsOrdered := by
  induction h with
  | @last done _ branch _ hbranch hend ih =>
    have hfirst : branch.IsOrdered := ih (List.forall_mem_nil _)
    exact ordered_eitherOf
      (List.forall_mem_append.mpr ⟨hdone, List.forall_mem_singleton.mpr hfirst⟩)
  | @bar done _ branch _ _ _ _ hbranch hbar hmore ihbranch ihmore =>
    have hfirst : branch.IsOrdered := ihbranch (List.forall_mem_nil _)
    exact ihmore (List.forall_mem_append.mpr ⟨hdone, List.forall_mem_singleton.mpr hfirst⟩)
  | stop => exact ordered_sequenceOf fun part hpart => hdone part (List.mem_reverse.mp hpart)
  | part hpart hmore ih => exact ih (List.forall_mem_cons.mpr ⟨readPart?_ordered hpart, hdone⟩)
  | repetition hbounds hlast hmore ih =>
    exact ih (repeatLast?_ordered hlast (readRepetition?_ordered hbounds) hdone)
  | flags hopen hstart hmore ih => exact ih (List.forall_mem_cons.mpr ⟨trivial, hdone⟩)
  | group hopen hstart hbody hclose hmore ihbody ihmore =>
    exact ihmore (List.forall_mem_cons.mpr ⟨ihbody (List.forall_mem_nil _), hdone⟩)
  | capture hopen hstart hbody hclose hmore ihbody ihmore =>
    exact ihmore (List.forall_mem_cons.mpr ⟨ihbody (List.forall_mem_nil _), hdone⟩)

/-! ## Their meaning -/

/-- A sequence of ordered patterns is ordered. -/
theorem isOrdered_sequences {ps : List Pattern} (h : ∀ p ∈ ps, p.IsOrdered) :
    (sequences ps).IsOrdered := by
  induction ps with
  | nil => trivial
  | cons p ps ih =>
    obtain ⟨hfirst, hothers⟩ := List.forall_mem_cons.mp h
    cases ps with
    | nil => exact hfirst
    | cons q ps => exact ⟨hfirst, ih hothers⟩

/-- A choice between ordered patterns is ordered. -/
theorem isOrdered_eithers {ps : List Pattern} (h : ∀ p ∈ ps, p.IsOrdered) :
    (eithers ps).IsOrdered := by
  induction ps with
  | nil => trivial
  | cons p ps ih =>
    obtain ⟨hfirst, hothers⟩ := List.forall_mem_cons.mp h
    cases ps with
    | nil => exact hfirst
    | cons q ps => exact ⟨hfirst, ih hothers⟩

mutual

/-- The pattern that an ordered expression means is ordered, under any flags. -/
theorem Expr.IsOrdered.meaning {expr : Expr} (h : expr.IsOrdered) {flags flags' : Flags}
    {p : Pattern} (hmeaning : expr.meaning? flags = some (p, flags')) : p.IsOrdered := by
  cases expr with
  | empty | flags | assertion =>
    cases hmeaning
    trivial
  | literal l =>
    obtain ⟨c, -, hmeaning⟩ := Option.bind_eq_some_iff.mp hmeaning
    cases hmeaning
    trivial
  | dot =>
    obtain ⟨set, -, hmeaning⟩ := Option.bind_eq_some_iff.mp hmeaning
    cases hmeaning
    trivial
  | letter kind negated =>
    obtain ⟨set, -, hmeaning⟩ := Option.bind_eq_some_iff.mp hmeaning
    cases hmeaning
    trivial
  | property name negated =>
    obtain ⟨set, -, hmeaning⟩ := Option.bind_eq_some_iff.mp hmeaning
    cases hmeaning
    trivial
  | bracketed set negated =>
    rw [Expr.meaning?] at hmeaning
    obtain ⟨inner, -, hmeaning⟩ := Option.bind_eq_some_iff.mp hmeaning
    obtain ⟨outer, -, hmeaning⟩ := Option.bind_eq_some_iff.mp hmeaning
    cases hmeaning
    trivial
  -- limits are those of the expression, and ordered with it
  | repeated least most body =>
    rw [Expr.meaning?] at hmeaning
    obtain ⟨⟨q, after⟩, hbody, hmeaning⟩ := Option.bind_eq_some_iff.mp hmeaning
    cases hmeaning
    exact ⟨h.1, Expr.IsOrdered.meaning h.2 hbody⟩
  | group change body =>
    rw [Expr.meaning?] at hmeaning
    obtain ⟨⟨q, after⟩, hbody, hmeaning⟩ := Option.bind_eq_some_iff.mp hmeaning
    cases hmeaning
    rw [Expr.IsOrdered] at h
    show q.IsOrdered
    exact Expr.IsOrdered.meaning h hbody
  | capture body =>
    rw [Expr.meaning?] at hmeaning
    obtain ⟨⟨q, after⟩, hbody, hmeaning⟩ := Option.bind_eq_some_iff.mp hmeaning
    cases hmeaning
    rw [Expr.IsOrdered] at h
    show q.IsOrdered
    exact Expr.IsOrdered.meaning h hbody
  | either branches =>
    rw [Expr.meaning?] at hmeaning
    obtain ⟨⟨ps, after⟩, hbranches, hmeaning⟩ := Option.bind_eq_some_iff.mp hmeaning
    cases hmeaning
    rw [Expr.IsOrdered] at h
    exact isOrdered_eithers (Expr.AreOrdered.meanings h hbranches)
  | sequence parts =>
    rw [Expr.meaning?] at hmeaning
    obtain ⟨⟨ps, after⟩, hparts, hmeaning⟩ := Option.bind_eq_some_iff.mp hmeaning
    cases hmeaning
    rw [Expr.IsOrdered] at h
    exact isOrdered_sequences (Expr.AreOrdered.meanings h hparts)

/-- The patterns that ordered expressions mean are ordered. -/
theorem Expr.AreOrdered.meanings {exprs : List Expr} (h : Expr.AreOrdered exprs)
    {flags flags' : Flags} {ps : List Pattern}
    (hmeaning : Expr.meanings? flags exprs = some (ps, flags')) : ∀ p ∈ ps, p.IsOrdered := by
  cases exprs with
  | nil =>
    cases hmeaning
    exact List.forall_mem_nil _
  | cons expr exprs =>
    rw [Expr.meanings?] at hmeaning
    obtain ⟨⟨p, middle⟩, hfirst, hmeaning⟩ := Option.bind_eq_some_iff.mp hmeaning
    obtain ⟨⟨qs, after⟩, hothers, hmeaning⟩ := Option.bind_eq_some_iff.mp hmeaning
    cases hmeaning
    rw [Expr.AreOrdered] at h
    exact List.forall_mem_cons.mpr
      ⟨Expr.IsOrdered.meaning h.1 hfirst, Expr.AreOrdered.meanings h.2 hothers⟩

end

end JvmSource.Pattern
