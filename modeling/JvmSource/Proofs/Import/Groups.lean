import Mathlib.Data.List.Dedup
import Mathlib.Tactic.Common
import JvmSource.Proofs.Import.Accounting
import JvmSource.Proofs.Import.Sorting
import JvmSource.Proofs.Resolver.Requests

/-!
# Groups of imports

A group of imports is a separating line end and the statements that follow it. In a block that is
sorted by code point, forwards or backwards, there is one group for each first part of the imported
names. This is so because names that start with the same part and a dot have only such names between
them: the texts with a common start are an interval of the order. A name without a dot could get
between them as well, but resolving never binds one.
-/

namespace JvmSource

namespace ImportTable

/-- Whether a table comes about by resolving references, from the empty table on. Each may have a
scope, a dialect and excluded types of its own. -/
inductive Resolved : ImportTable → Prop
  | empty : Resolved .empty
  | resolve {table : ImportTable} (dialect : Dialect) (excluded : Option Pattern) (scope : Scope)
      (text : Text) (keep : Nat) (before : Resolved table) :
      Resolved (Resolver.resolve ⟨dialect.policy, excluded⟩ scope table text keep).2

variable {table : ImportTable} {a b c name : Text}

/-- Resolving binds the names of classes only. -/
theorem Resolved.names (h : table.Resolved) :
    ∀ binding ∈ table.bindings, ∃ scope : Scope, scope.Names binding.1 binding.2 := by
  induction h with
  | empty => exact fun binding hbinding => absurd hbinding List.not_mem_nil
  | @resolve table dialect excluded scope text keep before ih =>
    intro binding hbinding
    let resolver : Resolver := ⟨dialect.policy, excluded⟩
    have hstep : binding ∈ (resolver.resolveEach table [⟨scope, text, keep⟩]).bindings := hbinding
    rcases (Resolver.mem_bindings_resolveEach ..).mp hstep with
      hold | ⟨inner, offer, hshortens, rfl⟩
    · exact ih binding hold
    · exact hshortens.names dialect.nativePaths

/-! ## First parts of names -/

/-- A dotted name is its first part, a dot and the rest. -/
theorem exists_eq_topLevel (h : '.' ∈ name) : ∃ rest, name = topLevel name ++ '.' :: rest := by
  have hsplit : name = topLevel name ++ name.dropWhile (· != '.') :=
    List.takeWhile_append_dropWhile.symm
  have hne : name.dropWhile (· != '.') ≠ [] := by
    intro hnil
    have hall := List.dropWhile_eq_nil_iff.mp hnil '.' h
    exact absurd hall (by simp)
  obtain ⟨c, rest, hcons⟩ := List.exists_cons_of_ne_nil hne
  have hc : c = '.' := by
    have hhead := List.head_dropWhile_not (· != '.') hne
    simpa [hcons] using hhead
  exact ⟨rest, by rw [← hc, ← hcons, ← hsplit]⟩

/-- The first part of a name ends at its first dot. -/
theorem topLevel_append_dot {first : Text} (h : '.' ∉ first) (rest : Text) :
    topLevel (first ++ '.' :: rest) = first := by
  have hkept : ∀ c ∈ first, (c != '.') = true := by
    intro c hc
    simp only [bne_iff_ne, ne_eq]
    rintro rfl
    exact h hc
  rw [topLevel, List.takeWhile_append_of_pos hkept]
  simp

/-- The first part of a name has no dot. -/
theorem dot_not_mem_topLevel (name : Text) : '.' ∉ topLevel name := by
  intro hmem
  exact absurd (List.mem_takeWhile_imp hmem) (by simp)

/-- What resolving binds has a first part and a dot after it. -/
theorem Resolved.exists_eq (h : table.Resolved) (hname : name ∈ table.qualifiedNames) :
    ∃ first rest, name = first ++ '.' :: rest ∧ first ≠ [] ∧ '.' ∉ first := by
  obtain ⟨simple, hbinding⟩ := (table.inStep name).mp hname
  obtain ⟨scope, hnames⟩ := h.names _ hbinding
  obtain ⟨front, hfront, -, hqualified⟩ := hnames.exists_path
  obtain ⟨first, others, rfl⟩ := List.exists_cons_of_ne_nil hfront.ne_nil
  have hname : name = first ++ '.' :: Text.dotted (others ++ [simple]) :=
    hqualified.trans (Text.dotted_cons (by simp))
  have hfirst := Identifier.ne_nil_of_accepts (hfront.accepts first (by simp))
  exact ⟨first, _, hname, hfirst, hfront.not_dot_mem first (by simp)⟩

/-- Resolving binds only dotted names. -/
theorem Resolved.dot_mem (h : table.Resolved) (hname : name ∈ table.qualifiedNames) :
    '.' ∈ name := by
  obtain ⟨first, rest, rfl, -⟩ := h.exists_eq hname
  simp

/-- Names bound by resolving have a first part that is not empty. -/
theorem Resolved.topLevel_ne_nil (h : table.Resolved) (hname : name ∈ table.qualifiedNames) :
    topLevel name ≠ [] := by
  obtain ⟨first, rest, rfl, hne, hdot⟩ := h.exists_eq hname
  rw [topLevel_append_dot hdot]
  exact hne

/-- The texts with a common start are an interval. -/
theorem prefix_of_between {start before between after : Text} (hlow : ¬ between < start ++ before)
    (hhigh : ¬ start ++ after < between) : start <+: between := by
  induction start generalizing between with
  | nil => exact List.nil_prefix
  | cons c start ih =>
    cases between with
    | nil => exact absurd (List.nil_lt_cons ..) hlow
    | cons d between =>
      rw [List.cons_append, List.cons_lt_cons_iff, not_or, not_and] at hlow hhigh
      obtain rfl : c = d := Char.le_antisymm (Char.not_lt.mp hlow.1) (Char.not_lt.mp hhigh.1)
      exact List.cons_prefix_cons.mpr ⟨rfl, ih (hlow.2 rfl) (hhigh.2 rfl)⟩

/-- A name between two names with the same first part has that first part. -/
theorem topLevel_eq_of_between (ha : '.' ∈ a) (hc : '.' ∈ c) (hab : ¬ b < a) (hbc : ¬ c < b)
    (h : topLevel a = topLevel c) : topLevel b = topLevel a := by
  obtain ⟨before, hbefore⟩ := exists_eq_topLevel ha
  obtain ⟨after, hafter⟩ := exists_eq_topLevel hc
  have hlow : ¬ b < topLevel a ++ ['.'] ++ before := by
    rw [List.append_assoc]
    exact hbefore ▸ hab
  have hhigh : ¬ topLevel a ++ ['.'] ++ after < b := by
    rw [List.append_assoc, h]
    exact hafter ▸ hbc
  obtain ⟨rest, rfl⟩ := prefix_of_between hlow hhigh
  rw [List.append_assoc]
  exact topLevel_append_dot (dot_not_mem_topLevel a) rest

end ImportTable

open ImportTable (topLevel)

/-! ## Groups -/

/-- Whether names that have the same first part stand next to each other. -/
def Contiguous (names : List Text) : Prop :=
  ∀ a b c, [a, b, c].Sublist names → topLevel a = topLevel c → topLevel b = topLevel a

/-- Whether names are put in groups: each has its own first part, and all names with that part. -/
structure IsGrouping (names : List Text) (groups : List (Text × List Text)) : Prop where
  names_eq : groups.flatMap Prod.snd = names
  distinct : (groups.map Prod.fst).Nodup
  ne_nil : ∀ group ∈ groups, group.2 ≠ []
  topLevel_eq : ∀ group ∈ groups, ∀ name ∈ group.2, topLevel name = group.1

namespace IsGrouping

variable {names members : List Text} {groups : List (Text × List Text)} {name top : Text}

theorem nil : IsGrouping [] [] := ⟨rfl, List.nodup_nil, by simp, by simp⟩

/-- The first parts of groups are those of the names in them. -/
theorem mem_tops_iff (h : IsGrouping names groups) :
    top ∈ groups.map Prod.fst ↔ ∃ name ∈ names, topLevel name = top := by
  simp only [← h.names_eq, List.mem_map, List.mem_flatMap]
  constructor
  · rintro ⟨group, hgroup, rfl⟩
    obtain ⟨name, hname⟩ := List.exists_mem_of_ne_nil _ (h.ne_nil group hgroup)
    exact ⟨name, ⟨group, hgroup, hname⟩, h.topLevel_eq group hgroup name hname⟩
  · rintro ⟨name, ⟨group, hgroup, hname⟩, rfl⟩
    exact ⟨group, hgroup, (h.topLevel_eq group hgroup name hname).symm⟩

/-- A name with a first part of its own starts a group. -/
theorem cons (h : IsGrouping names groups) (hnew : topLevel name ∉ groups.map Prod.fst) :
    IsGrouping (name :: names) ((topLevel name, [name]) :: groups) where
  names_eq := congrArg (name :: ·) h.names_eq
  distinct := List.nodup_cons.mpr ⟨hnew, h.distinct⟩
  ne_nil := List.forall_mem_cons.mpr ⟨List.cons_ne_nil name [], h.ne_nil⟩
  topLevel_eq := List.forall_mem_cons.mpr ⟨by simp, h.topLevel_eq⟩

/-- A name with the same first part as the first group joins it. -/
theorem join (h : IsGrouping names ((topLevel name, members) :: groups)) :
    IsGrouping (name :: names) ((topLevel name, name :: members) :: groups) where
  names_eq := congrArg (name :: ·) h.names_eq
  distinct := h.distinct
  ne_nil := by
    have hrest := (List.forall_mem_cons.mp h.ne_nil).2
    exact List.forall_mem_cons.mpr ⟨List.cons_ne_nil name members, hrest⟩
  topLevel_eq := by
    obtain ⟨hfirst, hrest⟩ := List.forall_mem_cons.mp h.topLevel_eq
    exact List.forall_mem_cons.mpr ⟨List.forall_mem_cons.mpr ⟨rfl, hfirst⟩, hrest⟩

/-- The groups after the first one. -/
theorem tail {group : Text × List Text} (h : IsGrouping names (group :: groups)) :
    IsGrouping (groups.flatMap Prod.snd) groups where
  names_eq := rfl
  distinct := (List.nodup_cons.mp h.distinct).2
  ne_nil := (List.forall_mem_cons.mp h.ne_nil).2
  topLevel_eq := (List.forall_mem_cons.mp h.topLevel_eq).2

/-- There are as many groups as different first parts. -/
theorem length_eq (h : IsGrouping names groups) :
    groups.length = (names.map topLevel).dedup.length := by
  have hperm : (groups.map Prod.fst).Perm (names.map topLevel).dedup := by
    rw [List.perm_ext_iff_of_nodup h.distinct (List.nodup_dedup _)]
    intro top
    rw [h.mem_tops_iff, List.mem_dedup, List.mem_map]
  rw [← hperm.length_eq, List.length_map]

end IsGrouping

/-- Names can be put in groups if those with the same first part stand next to each other. -/
theorem exists_isGrouping {names : List Text} (h : Contiguous names) :
    ∃ groups, IsGrouping names groups := by
  induction names with
  | nil => exact ⟨[], .nil⟩
  | cons name names ih =>
    obtain ⟨groups, hgroups⟩ := ih fun a b c hsub => h a b c (hsub.cons name)
    by_cases hnew : topLevel name ∈ groups.map Prod.fst
    · -- then it is the first part of the name behind, since no other part may come between
      obtain ⟨other, hother, htop⟩ := hgroups.mem_tops_iff.mp hnew
      obtain ⟨⟨top, members⟩, groups, rfl⟩ := List.exists_cons_of_ne_nil (l := groups) (by
        rintro rfl
        exact absurd hnew List.not_mem_nil)
      obtain ⟨next, more, rfl⟩ := List.exists_cons_of_ne_nil
        (hgroups.ne_nil (top, members) (List.mem_cons_self ..))
      have hnames : names = next :: (more ++ groups.flatMap Prod.snd) := hgroups.names_eq.symm
      have hnext : topLevel next = topLevel name := by
        rw [hnames] at hother
        rcases List.mem_cons.mp hother with rfl | hother
        · exact htop
        · refine h name next other ?_ htop.symm
          rw [hnames]
          exact ((List.singleton_sublist.mpr hother).cons_cons next).cons_cons name
      have hsame : topLevel next = top :=
        hgroups.topLevel_eq (top, next :: more) (List.mem_cons_self ..) next (List.mem_cons_self ..)
      obtain rfl : top = topLevel name := hsame.symm.trans hnext
      exact ⟨_, hgroups.join⟩
    · -- a first part of its own starts a group in front of the others
      exact ⟨_, hgroups.cons hnew⟩

/-! ## Order -/

/-- In order, dotted names with the same first part stand next to each other. -/
theorem contiguous_of_pairwise {names : List Text} (hdot : ∀ name ∈ names, '.' ∈ name)
    (h : names.Pairwise fun a b => ¬ b < a) : Contiguous names := by
  intro a b c hsub htop
  have hpairs := h.sublist hsub
  simp only [List.pairwise_cons, List.mem_cons, List.not_mem_nil, or_false] at hpairs
  have ha : '.' ∈ a := hdot a (hsub.subset (by simp))
  have hc : '.' ∈ c := hdot c (hsub.subset (by simp))
  exact ImportTable.topLevel_eq_of_between ha hc (hpairs.1 b (Or.inl rfl))
    (hpairs.2.1 c rfl) htop

/-- Names that stand next to each other still do so in reverse. -/
theorem Contiguous.reverse {names : List Text} (h : Contiguous names) :
    Contiguous names.reverse := by
  intro a b c hsub htop
  have hsub' : [c, b, a].Sublist names := by simpa using hsub.reverse
  rw [htop]
  exact h c b a hsub' htop.symm

/-- Names that stand next to each other still do so when others are left out. -/
theorem Contiguous.sublist {names part : List Text} (h : Contiguous names)
    (hpart : part.Sublist names) : Contiguous part :=
  fun a b c hsub => h a b c (hsub.trans hpart)

/-- Sorted by code point, in either direction, names with the same first part stand together. -/
theorem ImportTable.contiguous_ordered {table : ImportTable} {order : ImportOrder}
    (horder : order = .lexical ∨ order = .reverse)
    (hdot : ∀ name ∈ table.qualifiedNames, '.' ∈ name) :
    Contiguous (table.ordered order) := by
  have hcontiguous : Contiguous table.qualifiedNames :=
    contiguous_of_pairwise hdot (table.distinct.imp fun hlt hgt =>
      List.lt_irrefl _ (List.lt_trans hlt hgt))
  rcases horder with rfl | rfl
  · rw [table.ordered_lexical]
    exact hcontiguous
  · rw [table.ordered_reverse]
    exact hcontiguous.reverse

/-! ## Text -/

namespace ImportStyle

variable {style : ImportStyle} {names rest : List Text} {top previous : Text}

/-- The line that imports a name. -/
def importLine (style : ImportStyle) (name : Text) : Text :=
  style.policy.importStatement name ++ style.newline

/-- A group of imports: a separator, and the line of each name. -/
def groupText (style : ImportStyle) (names : List Text) : Text :=
  style.newline ++ names.flatMap style.importLine

/-- Names with the first part of the name before need no separator. -/
theorem statements_append (h : ∀ name ∈ names, topLevel name = top) :
    style.statements top (names ++ rest) =
      names.flatMap style.importLine ++ style.statements top rest := by
  induction names with
  | nil => rfl
  | cons name names ih =>
    obtain ⟨hname, hnames⟩ := List.forall_mem_cons.mp h
    rw [List.cons_append, statements, hname]
    simp only [if_true, List.nil_append]
    rw [ih hnames, List.flatMap_cons, importLine]
    simp

/-- Names with another first part than the name before are a group. -/
theorem statements_group (h : ∀ name ∈ names, topLevel name = top) (hne : names ≠ [])
    (htop : top ≠ previous) :
    style.statements previous (names ++ rest) =
      style.groupText names ++ style.statements top rest := by
  obtain ⟨name, names, rfl⟩ := List.exists_cons_of_ne_nil hne
  obtain ⟨hname, hnames⟩ := List.forall_mem_cons.mp h
  rw [List.cons_append, statements, hname]
  simp only [if_neg htop]
  rw [statements_append hnames, groupText, List.flatMap_cons, importLine]
  simp

/-- The statements for names in groups are the groups, one after the other. -/
theorem statements_groups {groups : List (Text × List Text)} (h : IsGrouping names groups)
    (hprevious : previous ∉ groups.map Prod.fst) :
    style.statements previous names = groups.flatMap fun group => style.groupText group.2 := by
  induction groups generalizing names previous with
  | nil =>
    rw [← h.names_eq]
    rfl
  | cons group groups ih =>
    -- behind a group the name before has its first part, which no later group has
    have hnext : group.1 ∉ groups.map Prod.fst := (List.nodup_cons.mp h.distinct).1
    have hstart : group.1 ≠ previous := fun hsame => hprevious (by simp [hsame])
    have hne := h.ne_nil group (List.mem_cons_self ..)
    have htop := h.topLevel_eq group (List.mem_cons_self ..)
    rw [← h.names_eq, List.flatMap_cons, statements_group htop hne hstart, ih h.tail hnext,
      List.flatMap_cons]

/-- Sorted by code point, forwards or backwards, the imported names with the same first part stand
next to each other: the block is one group for each first part, whatever names it leaves out. -/
theorem block_grouped {table : ImportTable} (h : table.Resolved) {style : ImportStyle}
    (horder : style.order = .lexical ∨ style.order = .reverse) (package : Option Text) :
    let block := style.block table package
    Contiguous block.emitted ∧
      ∃ groups, IsGrouping block.emitted groups ∧
        block.text = groups.flatMap (fun group => style.groupText group.2) ∧
        groups.length = (block.emitted.map topLevel).dedup.length := by
  have hcontiguous : Contiguous (style.block table package).emitted := by
    rw [emitted_block]
    exact (ImportTable.contiguous_ordered horder fun name => h.dot_mem).sublist
      (style.sublist_imported package _)
  obtain ⟨groups, hgroups⟩ := exists_isGrouping hcontiguous
  -- before the first name the writer has an empty first part, which is that of no name
  have hfirst : [] ∉ groups.map Prod.fst := by
    rw [hgroups.mem_tops_iff]
    rintro ⟨name, hname, htop⟩
    have hmem : name ∈ table.qualifiedNames :=
      (table.perm_ordered style.order).mem_iff.mp (mem_emitted.mp hname).1
    exact h.topLevel_ne_nil hmem htop
  have htext : (style.block table package).text =
      groups.flatMap fun group => style.groupText group.2 := by
    rw [text_block]
    exact statements_groups hgroups hfirst
  exact ⟨hcontiguous, groups, hgroups, htext, hgroups.length_eq⟩

/-- The name that is left out stands between two names of one group. -/
theorem block_grouped_between :
    ∃ table : ImportTable, table.Resolved ∧
      table.qualifiedNames =
        ["java.io.File", "java.lang.Integer", "java.util.List", "scala.Option"].map String.toList ∧
      let style : ImportStyle := ⟨Dialect.java.policy, "Report".toList, .reverse, ['\n']⟩
      (style.order = .lexical ∨ style.order = .reverse) ∧
        let block := style.block table none
        block = {
          text := "\nimport scala.Option;\n\nimport java.util.List;\nimport java.io.File;\n".toList
          emitted := ["scala.Option", "java.util.List", "java.io.File"].map String.toList
          elided := [("java.lang.Integer".toList, .ambient)] } ∧
        Contiguous block.emitted ∧
          ∃ groups, IsGrouping block.emitted groups ∧
            block.text = groups.flatMap (fun group => style.groupText group.2) ∧
            groups.length = (block.emitted.map topLevel).dedup.length := by
  let scope : Scope := ⟨"Report".toList, none⟩
  let resolve (table : ImportTable) (text : String) : ImportTable :=
    (Resolver.resolve ⟨Dialect.java.policy, none⟩ scope table text.toList 1).2
  have hresolve : ∀ {table : ImportTable}, table.Resolved → ∀ text, (resolve table text).Resolved :=
    fun h text => h.resolve .java none scope text.toList 1
  obtain ⟨table, htable, hnames⟩ : ∃ table : ImportTable, table.Resolved ∧
      table.qualifiedNames =
        ["java.io.File", "java.lang.Integer", "java.util.List", "scala.Option"].map String.toList :=
    ⟨_, hresolve (hresolve (hresolve .empty "scala.Option<java.util.List>") "java.lang.Integer")
      "java.io.File", by decide +kernel⟩
  refine ⟨table, htable, hnames, Or.inr rfl, ?_, block_grouped htable (Or.inr rfl) none⟩
  rw [block, ImportTable.ordered_reverse, hnames]
  decide +kernel

end ImportStyle

end JvmSource
