import Mathlib.Data.List.Dedup
import Mathlib.Tactic.Common
import JvmSource.Import.Block
import JvmSource.Proofs.Resolver.Naming

/-!
# What import blocks account for

Each name of a table is imported by a statement or left out for one reason, and never both. Where
all bindings of the table stand for classes, the reasons are good ones: the class that is left out
as the class of the file is that class, and a name that is left out as a member of the package is
one. No two statements then bring the same simple name into the file.
-/

namespace JvmSource

/-- The part of a qualified name after its last dot. -/
def Text.lastSegment (qualified : Text) : Text :=
  (Text.split '.' qualified).getLast (Text.split_ne_nil '.' qualified)

namespace Text

/-- The last segment of a path is the name after its last dot. -/
theorem lastSegment_append_cons (before : Text) {name : Text} (h : '.' ∉ name) :
    lastSegment (before ++ '.' :: name) = name := by
  have hsplit : split '.' (before ++ '.' :: name) = split '.' before ++ [name] := by
    rw [split_eq_splitOn, List.splitOn_append_cons_self, ← split_eq_splitOn, ← split_eq_splitOn,
      split_of_not_mem h]
  simp only [lastSegment, hsplit, List.getLast_append_singleton]

end Text

namespace ImportTable

variable {table : ImportTable} {qualified : Text}

/-- The order of imports only rearranges the bound names. -/
theorem perm_ordered (table : ImportTable) (order : ImportOrder) :
    (table.ordered order).Perm table.qualifiedNames := List.mergeSort_perm _ _

/-- No name stands twice in the order of imports. -/
theorem nodup_ordered (table : ImportTable) (order : ImportOrder) :
    (table.ordered order).Nodup :=
  (table.perm_ordered order).nodup_iff.mpr table.nodup_qualifiedNames

/-- The names in order are those that something is bound to. -/
theorem mem_ordered {order : ImportOrder} :
    qualified ∈ table.ordered order ↔ ∃ simple, (simple, qualified) ∈ table.bindings := by
  rw [(table.perm_ordered order).mem_iff]
  exact table.inStep qualified

end ImportTable

namespace ImportStyle

variable {style : ImportStyle} {table : ImportTable} {package : Option Text} {qualified : Text}

/-- A good reason to leave a name out. -/
inductive Excuse (style : ImportStyle) (package : Option Text) (qualified : Text) : Elision → Prop
  | ambient (visible : style.policy.isAmbient qualified = true) : Excuse style package qualified .ambient
  | ownClass (before : Text) (own : qualified = before ++ '.' :: style.className) :
      Excuse style package qualified .ownClass
  | samePackage (path name : Text) (declared : package = some path) (single : '.' ∉ name)
      (member : qualified = path ++ '.' :: name) : Excuse style package qualified .samePackage

/-- The test for the own class accepts every name that ends with a dot and the name of the class. -/
theorem isOwn_iff {className : Text} :
    (className.isSuffixOf? qualified).any (·.getLast? == some '.') = true ↔
      ∃ before, qualified = before ++ '.' :: className := by
  rw [Option.any_eq_true]
  constructor
  · rintro ⟨rest, hrest, hlast⟩
    obtain ⟨before, rfl⟩ := List.getLast?_eq_some_iff.mp (beq_iff_eq.mp hlast)
    refine ⟨before, ?_⟩
    rw [← List.isSuffixOf?_eq_some_iff_append_eq.mp hrest, List.append_assoc]
    rfl
  · rintro ⟨before, rfl⟩
    refine ⟨before ++ ['.'], ?_, by simp⟩
    rw [List.isSuffixOf?_eq_some_iff_append_eq, List.append_assoc]
    rfl

/-- A type directly in a package is named by the path of the package, a dot and a simple name. -/
theorem isMember_iff {path : Text} :
    isMember path qualified = true ↔ ∃ name, '.' ∉ name ∧ qualified = path ++ '.' :: name := by
  rw [isMember, Option.any_eq_true]
  constructor
  · rintro ⟨name, hname, hsingle⟩
    refine ⟨name, by simpa using hsingle, ?_⟩
    rw [← List.isPrefixOf?_eq_some_iff_append_eq.mp hname, List.append_assoc]
    rfl
  · rintro ⟨name, hsingle, rfl⟩
    refine ⟨name, ?_, by simpa using hsingle⟩
    rw [List.isPrefixOf?_eq_some_iff_append_eq, List.append_assoc]
    rfl

/-- Names are left out for good reasons only. -/
theorem excuse_of_elision? {reason : Elision}
    (h : style.elision? package qualified = some reason) :
    Excuse style package qualified reason := by
  unfold elision? at h
  split at h
  · next hambient =>
    cases h
    exact .ambient hambient
  split at h
  · next hown =>
    cases h
    obtain ⟨before, hbefore⟩ := isOwn_iff.mp hown
    exact .ownClass before hbefore
  split at h
  · next hmember =>
    cases h
    rw [Option.any_eq_true] at hmember
    obtain ⟨path, hpath, hmember⟩ := hmember
    obtain ⟨name, hsingle, hname⟩ := isMember_iff.mp hmember
    exact .samePackage path name hpath hsingle hname
  · exact absurd h (by simp)

/-- A name that ends like the class of the file is always left out. -/
theorem elision?_ne_none {before : Text} (h : qualified = before ++ '.' :: style.className) :
    style.elision? package qualified ≠ none := by
  have hown := isOwn_iff.mpr ⟨before, h⟩
  unfold elision?
  rw [if_pos hown]
  split <;> simp

/-! ## Blocks -/

/-- The statements that import names, where `previous` is the first part of the name before. -/
def statements (style : ImportStyle) : (previous : Text) → List Text → Text
  | _, [] => []
  | previous, name :: names =>
    let group := ImportTable.topLevel name
    (if group = previous then [] else style.newline) ++
      style.policy.importStatement name ++ style.newline ++ style.statements group names

/-- The names of a list that are imported. -/
def imported (style : ImportStyle) (package : Option Text) (names : List Text) : List Text :=
  names.filter fun name => (style.elision? package name).isNone

/-- The names of a list that are left out, each with the reason. -/
def leftOut (style : ImportStyle) (package : Option Text) (names : List Text) :
    List (Text × Elision) :=
  names.filterMap fun name => (style.elision? package name).map (name, ·)

/-- Going through the names once gives what choosing the imported names first and writing them
afterwards gives, from any first part on. -/
theorem blockFrom_eq (style : ImportStyle) (package : Option Text) (previous : Text)
    (names : List Text) :
    style.blockFrom package previous names =
      { text := style.statements previous (style.imported package names)
        emitted := style.imported package names
        elided := style.leftOut package names } := by
  induction names generalizing previous with
  | nil => rfl
  | cons name names ih =>
    cases h : style.elision? package name with
    | some reason =>
      -- the name is not written, and the first part of the name before stays
      have himported : style.imported package (name :: names) = style.imported package names := by
        simp [imported, h]
      have hleftOut : style.leftOut package (name :: names) =
          (name, reason) :: style.leftOut package names := by simp [leftOut, h]
      rw [himported, hleftOut]
      simp only [blockFrom, h, ih]
    | none =>
      have himported : style.imported package (name :: names) =
          name :: style.imported package names := by simp [imported, h]
      have hleftOut : style.leftOut package (name :: names) = style.leftOut package names := by
        simp [leftOut, h]
      rw [himported, hleftOut]
      simp only [blockFrom, h, ih, statements]

/-- The block of a table imports the names that there is no reason to leave out. -/
theorem emitted_block (style : ImportStyle) (table : ImportTable) (package : Option Text) :
    (style.block table package).emitted = style.imported package (table.ordered style.order) := by
  rw [block, blockFrom_eq]

/-- The block reports the names it leaves out in the order of imports, each with its reason. -/
theorem elided_block (style : ImportStyle) (table : ImportTable) (package : Option Text) :
    (style.block table package).elided = style.leftOut package (table.ordered style.order) := by
  rw [block, blockFrom_eq]

/-- The text of a block is that of its imports: the names left out do not show in it. -/
theorem text_block (style : ImportStyle) (table : ImportTable) (package : Option Text) :
    (style.block table package).text =
      style.statements [] (style.block table package).emitted := by
  rw [block, blockFrom_eq]

theorem sublist_imported (style : ImportStyle) (package : Option Text) (names : List Text) :
    (style.imported package names).Sublist names := List.filter_sublist

/-- A name is imported if it is in the table and there is no reason to leave it out. -/
theorem mem_emitted :
    qualified ∈ (style.block table package).emitted ↔
      qualified ∈ table.ordered style.order ∧ style.elision? package qualified = none := by
  simp [emitted_block, imported]

/-- A name is left out if it is in the table, for the reason that there is. -/
theorem mem_elided {reason : Elision} :
    (qualified, reason) ∈ (style.block table package).elided ↔
      qualified ∈ table.ordered style.order ∧ style.elision? package qualified = some reason := by
  simp only [elided_block, leftOut, List.mem_filterMap, Option.map_eq_some_iff, Prod.mk.injEq]
  constructor
  · rintro ⟨name, hname, found, hfound, rfl, rfl⟩
    exact ⟨hname, hfound⟩
  · rintro ⟨hname, hreason⟩
    exact ⟨qualified, hname, reason, hreason, rfl, rfl⟩

/-- The names left out are all the others, in the same order. -/
theorem elided_names (style : ImportStyle) (table : ImportTable) (package : Option Text) :
    (style.block table package).elided.map Prod.fst =
      (table.ordered style.order).filter fun name => !(style.elision? package name).isNone := by
  rw [elided_block, leftOut]
  induction table.ordered style.order with
  | nil => rfl
  | cons name names ih => cases h : style.elision? package name <;> simp [h, ih]

/-- Each name of the table is in exactly one place of the block. -/
theorem perm_block (style : ImportStyle) (table : ImportTable) (package : Option Text) :
    ((style.block table package).emitted ++
      (style.block table package).elided.map Prod.fst).Perm (table.ordered style.order) := by
  rw [elided_names, emitted_block]
  exact List.filter_append_perm _ _

/-- A bound name is either imported once or left out once. -/
theorem count_block {simple : Text} (style : ImportStyle) (package : Option Text)
    (h : (simple, qualified) ∈ table.bindings) :
    (style.block table package).emitted.count qualified +
      ((style.block table package).elided.map Prod.fst).count qualified = 1 := by
  rw [← List.count_append, (perm_block style table package).count_eq]
  exact List.count_eq_one_of_mem (table.nodup_ordered style.order)
    (ImportTable.mem_ordered.mpr ⟨simple, h⟩)

end ImportStyle

/-! ## Tables whose bindings stand for classes -/

/-- How a block accounts for a name in the file of a class: it imports the name, or leaves it out
for a reason that holds in the package of the file. -/
inductive ImportBlock.Accounts (block : ImportBlock) (policy : Policy)
    (path className qualified : Text) : Prop
  | emitted (emitted : qualified ∈ block.emitted) : block.Accounts policy path className qualified
  | ambient (elided : (qualified, .ambient) ∈ block.elided)
      (visible : policy.isAmbient qualified = true) :
      block.Accounts policy path className qualified
  | ownClass (elided : (qualified, .ownClass) ∈ block.elided)
      (own : qualified = path ++ '.' :: className) : block.Accounts policy path className qualified
  | samePackage (elided : (qualified, .samePackage) ∈ block.elided) (name : Text)
      (ne_nil : name ≠ []) (single : '.' ∉ name) (member : qualified = path ++ '.' :: name) :
      block.Accounts policy path className qualified

namespace Scope.Names

variable {scope : Scope} {simple qualified : Text}

/-- A name that stands for a class is the last name of its path. -/
theorem exists_eq (h : scope.Names simple qualified) :
    ∃ before, qualified = before ++ '.' :: simple := by
  obtain ⟨front, hfront, -, rfl⟩ := h.exists_path
  exact ⟨Text.dotted front, Text.dotted_concat hfront.ne_nil simple⟩

/-- A name that stands for a class has no dot. -/
theorem dot_not_mem (h : scope.Names simple qualified) : '.' ∉ simple := by
  obtain ⟨front, -, hsimple, -⟩ := h.exists_path
  exact Identifier.not_mem_of_accepts hsimple (by decide)

/-- The last segment of a bound path is the name that stands for it. -/
theorem lastSegment_eq (h : scope.Names simple qualified) :
    Text.lastSegment qualified = simple := by
  obtain ⟨before, rfl⟩ := h.exists_eq
  exact Text.lastSegment_append_cons before h.dot_not_mem

/-- A name without dots that ends a qualified name is the simple name. -/
theorem eq_of_append (h : scope.Names simple qualified) {before name : Text} (hname : '.' ∉ name)
    (heq : qualified = before ++ '.' :: name) : simple = name := by
  rw [← h.lastSegment_eq, heq, Text.lastSegment_append_cons before hname]

end Scope.Names

namespace ImportStyle

variable {style : ImportStyle} {table : ImportTable} {path simple qualified : Text}

/-- In the file of a class, the block accounts for every bound name that stands for a class. -/
theorem accounts_of_names (hclass : '.' ∉ style.className)
    (hnames : Scope.Names ⟨style.className, some path⟩ simple qualified)
    (h : (simple, qualified) ∈ table.bindings) :
    (style.block table (some path)).Accounts style.policy path style.className qualified := by
  have hmem : qualified ∈ table.ordered style.order := ImportTable.mem_ordered.mpr ⟨simple, h⟩
  cases hreason : style.elision? (some path) qualified with
  | none => exact .emitted (mem_emitted.mpr ⟨hmem, hreason⟩)
  | some reason =>
    have helided := mem_elided.mpr ⟨hmem, hreason⟩
    cases excuse_of_elision? hreason with
    | ambient visible => exact .ambient helided visible
    | ownClass before own =>
      have hsimple : simple = style.className := hnames.eq_of_append hclass own
      have hself := hnames.isSelf hsimple
      exact .ownClass helided (by simpa [Scope.isSelf] using hself)
    | samePackage path' name declared single member =>
      cases declared
      have hsimple : simple = name := hnames.eq_of_append single member
      obtain ⟨front, -, haccepts, -⟩ := hnames.exists_path
      have hne : name ≠ [] := hsimple ▸ Identifier.ne_nil_of_accepts haccepts
      exact .samePackage helided name hne single member

/-- No two imported names have the same last segment. -/
theorem nodup_lastSegments {scope : Scope} {package : Option Text} (hsound : table.Sound scope) :
    ((style.block table package).emitted.map Text.lastSegment).Nodup := by
  have hemitted : (style.block table package).emitted.Nodup := by
    rw [emitted_block]
    exact (table.nodup_ordered style.order).filter _
  refine List.Nodup.map_on ?_ hemitted
  intro first hfirst second hsecond hsame
  obtain ⟨simple, hbinding⟩ := ImportTable.mem_ordered.mp (mem_emitted.mp hfirst).1
  obtain ⟨simple', hbinding'⟩ := ImportTable.mem_ordered.mp (mem_emitted.mp hsecond).1
  -- the same last segment is the same simple name, and that has one binding only
  have hsimple : simple = simple' :=
    calc simple = first.lastSegment := (hsound _ hbinding).lastSegment_eq.symm
      _ = second.lastSegment := hsame
      _ = simple' := (hsound _ hbinding').lastSegment_eq
  subst hsimple
  have hfirst' := ImportTable.mem_bindings_iff.mp hbinding
  have hsecond' := ImportTable.mem_bindings_iff.mp hbinding'
  exact Option.some_inj.mp (hfirst'.symm.trans hsecond')

/-- No imported name has the name of the class of the file as its last segment. -/
theorem className_not_mem_lastSegments {scope : Scope} {package : Option Text}
    (hsound : table.Sound scope) :
    style.className ∉ (style.block table package).emitted.map Text.lastSegment := by
  intro hmem
  obtain ⟨qualified, hqualified, hlast⟩ := List.mem_map.mp hmem
  obtain ⟨hordered, hnone⟩ := mem_emitted.mp hqualified
  obtain ⟨simple, hbinding⟩ := ImportTable.mem_ordered.mp hordered
  have hnames := hsound _ hbinding
  obtain ⟨before, heq⟩ := hnames.exists_eq
  have hsimple : simple = style.className := hnames.lastSegment_eq.symm.trans hlast
  exact elision?_ne_none (hsimple ▸ heq) hnone

end ImportStyle

end JvmSource
