import Mathlib.Data.List.Infix
import Mathlib.Tactic.Common
import JvmSource.Proofs.Resolver.Requests
import JvmSource.Proofs.Writer.Imports

/-!
# The class of the file

References are resolved with a scope that knows the class of the file by its package and its name.
In the import block it is told by its name alone: what ends with a dot and that name is left out.
The two agree on all names that can get into a table if the name of the class has no dot in it,
since a simple name stands for the class of the file or for no class that is called like it. A path
may name a class with dots, though, such as `acme.Row`. Then a class `com.acme.Row` of another
package is shortened to `Row` like any other, and left out of the imports as if it were the class of
the file.
-/

namespace JvmSource

/-- Whether the import block of a file leaves out, as the class of the file, exactly that class: of
the names that are bound and not visible anyway. -/
def SourceFile.AgreesOnOwnClass (file : SourceFile) (scope : Scope) : Prop :=
  ∀ binding ∈ file.table.bindings, file.dialect.policy.isAmbient binding.2 = false →
    ((binding.2, .ownClass) ∈ file.content.imports.elided ↔ scope.isSelf binding.2 = true)

/-- Whether a file comes about by a run of a writer that declares a package first and none later. -/
def SourceFile.WrittenIn (file : SourceFile) (path package : Text) : Prop :=
  ∃ config order writer calls, Writer.create path config order = .ok writer ∧
    (∀ name, .package name ∉ calls) ∧
    file = (writer.run (.package package :: calls)).2.finish

/-- Whether a text is a dotted path of several identifiers. -/
def IsQualifiedPath (text : Text) : Prop :=
  ∃ names, IsPath names ∧ 2 ≤ names.length ∧ text = Text.dotted names

/-- Of all qualified names, only the package of the file with its class name is the class itself. -/
theorem Scope.isSelf_iff {className package qualified : Text} :
    Scope.isSelf ⟨className, some package⟩ qualified = true ↔
      qualified = package ++ '.' :: className := by
  simp [isSelf]

/-- What follows a dot in a path is a path. -/
theorem IsPath.split_of_append {names : List Text} {before after : Text} (h : IsPath names)
    (heq : Text.dotted names = before ++ '.' :: after) : IsPath (Text.split '.' after) := by
  have hsplit : names = Text.split '.' before ++ Text.split '.' after := by
    rw [← h.split_dotted, heq, Text.split_eq_splitOn, List.splitOn_append_cons_self,
      ← Text.split_eq_splitOn, ← Text.split_eq_splitOn]
  refine ⟨Text.split_ne_nil '.' after, fun name hname => h.accepts name ?_⟩
  rw [hsplit]
  exact List.mem_append_right _ hname

/-- What follows a dot of a path is a qualified path if it has a dot of its own. -/
theorem isQualifiedPath_of_append {names : List Text} {before after : Text} (h : IsPath names)
    (heq : Text.dotted names = before ++ '.' :: after) (hdot : '.' ∈ after) :
    IsQualifiedPath after := by
  refine ⟨Text.split '.' after, h.split_of_append heq, ?_, (Text.dotted_split after).symm⟩
  obtain ⟨first, rest, rfl⟩ := List.append_of_mem hdot
  rw [Text.split_eq_splitOn, List.splitOn_append_cons_self, List.length_append]
  have hfirst := List.length_pos_of_ne_nil (List.splitOn_ne_nil '.' first)
  have hrest := List.length_pos_of_ne_nil (List.splitOn_ne_nil '.' rest)
  omega

namespace ImportStyle

variable {style : ImportStyle} {table : ImportTable} {package : Option Text}
  {simple qualified : Text}

/-- A name is left out for the class of the file when it ends with a dot and the class name, and is
not ambient. -/
theorem elision?_eq_ownClass_iff :
    style.elision? package qualified = some .ownClass ↔
      style.policy.isAmbient qualified = false ∧
        ∃ before, qualified = before ++ '.' :: style.className := by
  rw [← isOwn_iff]
  unfold elision?
  split
  · next hambient => simp [hambient]
  · next hambient =>
    split
    · next hown => simp [hambient, hown]
    · next hown =>
      split <;> simp [hown]

/-- Of the names that are bound, the block leaves out as the class of the file those that end with
its name, unless they are visible anyway. -/
theorem mem_elided_ownClass_iff (h : (simple, qualified) ∈ table.bindings) :
    (qualified, .ownClass) ∈ (style.block table package).elided ↔
      style.policy.isAmbient qualified = false ∧
        ∃ before, qualified = before ++ '.' :: style.className := by
  rw [mem_elided, elision?_eq_ownClass_iff]
  exact and_iff_right (ImportTable.mem_ordered.mpr ⟨simple, h⟩)

end ImportStyle

namespace SourceFile.WrittenIn

variable {file : SourceFile} {path package className : Text} {dialect : Dialect}

/-- A file that was written in a package has the block of its table, which is sound in that
package. -/
theorem exists_style (hpath : Dialect.forPath path = .ok (dialect, className))
    (h : file.WrittenIn path package) :
    file.dialect = dialect ∧ file.table.Sound ⟨className, some package⟩ ∧
      ∃ (style : ImportStyle) (declared : Option Text), style.policy = dialect.policy ∧
        style.className = className ∧ file.content.imports = style.block file.table declared := by
  obtain ⟨config, order, writer, calls, hcreate, hcalls, rfl⟩ := h
  obtain ⟨hdialect, hpolicy, hscope, htable, -⟩ := Writer.of_create hpath hcreate
  have hbegun : (writer.package package).Begun dialect ⟨className, some package⟩ [] := by
    refine ⟨hdialect, hpolicy, congrArg (fun scope : Scope => { scope with package }) hscope, ?_,
      List.nil_prefix⟩
    intro binding hbinding
    have hempty : (writer.package package).table = .empty := htable
    rw [hempty] at hbinding
    exact absurd hbinding List.not_mem_nil
  have hrun := hbegun.run hcalls
  exact ⟨hrun.dialect_eq, hrun.sound, _, _, congrArg Dialect.policy hrun.dialect_eq,
    congrArg Scope.className hrun.scope_eq, rfl⟩

/-- The import block differs from the scope on names of other packages only that end with the name
of the class of the file. -/
theorem agreesOnOwnClass_iff_forall (hpath : Dialect.forPath path = .ok (dialect, className))
    (h : file.WrittenIn path package) :
    file.AgreesOnOwnClass ⟨className, some package⟩ ↔
      ∀ binding ∈ file.table.bindings, dialect.policy.isAmbient binding.2 = false →
        ∀ other, binding.2 = other ++ '.' :: className → other = package := by
  obtain ⟨hdialect, -, style, declared, hpolicy, hname, himports⟩ := h.exists_style hpath
  have hblock : ∀ binding ∈ file.table.bindings, dialect.policy.isAmbient binding.2 = false →
      ((binding.2, .ownClass) ∈ file.content.imports.elided ↔
        ∃ other, binding.2 = other ++ '.' :: className) := by
    intro binding hbinding hambient
    rw [himports, ImportStyle.mem_elided_ownClass_iff hbinding, hpolicy, hname]
    exact and_iff_right hambient
  unfold AgreesOnOwnClass
  rw [hdialect]
  refine forall₂_congr fun binding hbinding => imp_congr_right fun hambient => ?_
  rw [hblock binding hbinding hambient, Scope.isSelf_iff]
  constructor
  · intro hagrees other hother
    have hself := hagrees.mp ⟨other, hother⟩
    rw [hother] at hself
    exact List.append_cancel_right hself
  · intro hown
    constructor
    · rintro ⟨other, hother⟩
      rw [hother, hown other hother]
    · intro hself
      exact ⟨package, hself⟩

/-- Where the name of the class is no qualified path, what ends with it is the class of the file. -/
theorem eq_of_ends (hpath : Dialect.forPath path = .ok (dialect, className))
    (h : file.WrittenIn path package) (hclass : ¬ IsQualifiedPath className)
    {binding : Text × Text} (hbinding : binding ∈ file.table.bindings) {other : Text}
    (hother : binding.2 = other ++ '.' :: className) : other = package := by
  obtain ⟨-, hsound, -⟩ := h.exists_style hpath
  have hnames := hsound binding hbinding
  by_cases hdot : '.' ∈ className
  · -- the name would be a part of a path
    obtain ⟨front, hfront, haccepts, hqualified⟩ := hnames.exists_path
    have hends := hqualified.symm.trans hother
    exact absurd (isQualifiedPath_of_append (hfront.concat haccepts) hends hdot) hclass
  · have hself := Scope.isSelf_iff.mp (hnames.isSelf (hnames.eq_of_append hdot hother))
    rw [hother] at hself
    exact List.append_cancel_right hself

end SourceFile.WrittenIn

/-! ## Names of classes with dots -/

/-- A class in a package that no dialect knows keeps its name, and is not visible anyway. -/
theorem Dialect.nativeType_unknown (dialect : Dialect) {names : List Text} {rest : Text}
    (h : Text.dotted names = 'b' :: rest) :
    dialect.policy.nativeType (.mk names .empty) = .mk names .empty := by
  have hlookup : dialect.policy.nativeTypes.lookup ('b' :: rest) = none := by cases dialect <;> rfl
  rw [Policy.nativeType_of_bare _ rfl, Policy.nativeNames, TypeRef.path, TypeRef.names, h, hlookup]

theorem Dialect.isAmbient_unknown (dialect : Dialect) (rest : Text) :
    dialect.policy.isAmbient ('b' :: rest) = false := by
  cases dialect <;> rfl

namespace Resolver

variable {resolver : Resolver} {scope : Scope}

/-- A reference to a class that is not excluded offers it, unless it is called like the class of the
file. -/
theorem exists_offer? {type : TypeRef} {front : List Text} {simple : Text}
    (hexcludes : resolver.excludes type = false) (hnames : type.names = front ++ [simple])
    (hfront : front ≠ []) (hclass : simple ≠ scope.className) :
    ∃ offer, resolver.offer? scope type 1 = some offer ∧
      offer.binding = (simple, Text.dotted type.names) := by
  rw [← Nat.zero_add 1, ← List.length_nil, offer?_of_split hexcludes hnames hfront,
    if_neg fun hsame => hclass hsame.1, ← hnames]
  exact ⟨_, rfl, rfl⟩

/-- The first reference of a file is shortened, if it offers a class. -/
theorem mem_bindings_resolve_empty {type : TypeRef} {offer : Offer} {text : Text} {keep : Nat}
    (hdot : '.' ∈ text) (hparse : TypeRef.parse? text = some type)
    (hoffer : resolver.offer? scope (resolver.rename type) keep = some offer) :
    offer.binding ∈ (resolver.resolve scope .empty text keep).2.bindings := by
  have hfree : ImportTable.empty.binding? offer.simple = none := rfl
  obtain ⟨bound, hbind, -⟩ := ImportTable.bind?_of_free hfree offer.qualified
  refine (mem_bindings_step resolver .empty ⟨scope, text, keep⟩ offer.binding).mpr (Or.inr ?_)
  exact ⟨_, offer, ⟨type, hdot, hparse, .here hoffer hbind⟩, rfl⟩

/-- In the file of a class whose name is a qualified path, a class that ends like it is bound. -/
theorem exists_binding_unknown (dialect : Dialect) (package : Option Text) {names : List Text}
    (hnames : IsPath names) (hlength : 2 ≤ names.length) :
    ∃ simple, (simple, ['b'] ++ '.' :: Text.dotted names) ∈
      (resolve ⟨dialect.policy, none⟩ ⟨Text.dotted names, package⟩ .empty
        (['b'] ++ '.' :: Text.dotted names) 1).2.bindings := by
  obtain ⟨front, simple, rfl⟩ : ∃ front simple, names = front ++ [simple] :=
    ⟨_, _, (List.dropLast_concat_getLast hnames.ne_nil).symm⟩
  let type : TypeRef := .mk ((['b'] :: front) ++ [simple]) .empty
  have hdotted : Text.dotted type.names = ['b'] ++ '.' :: Text.dotted (front ++ [simple]) :=
    Text.dotted_cons hnames.ne_nil
  have hprint : type.print = ['b'] ++ '.' :: Text.dotted (front ++ [simple]) :=
    (List.append_nil _).trans hdotted
  have hletter : Identifier.accepts ['b'] = true := rfl
  have hrename : rename ⟨dialect.policy, none⟩ type = type := by
    have hnative : dialect.policy.nativeType type = type := dialect.nativeType_unknown hdotted
    show (if type.isQualified then dialect.policy.nativeType type else type) = type
    rw [hnative, ite_self]
  -- the last name has no dot, so it is not refused as the name of the class of the file
  have hsimple : simple ≠ Text.dotted (front ++ [simple]) := by
    intro hsame
    have hdot : '.' ∈ Text.dotted (front ++ [simple]) := Text.dot_mem_dotted hlength
    rw [← hsame] at hdot
    exact hnames.not_dot_mem simple (by simp) hdot
  have hoffers : ∃ offer,
      offer? ⟨dialect.policy, none⟩ ⟨Text.dotted (front ++ [simple]), package⟩ type 1 = some offer ∧
        offer.binding = (simple, Text.dotted type.names) :=
    exists_offer? rfl rfl (List.cons_ne_nil _ _) hsimple
  obtain ⟨offer, hoffer, hbinding⟩ := hoffers
  rw [← hrename] at hoffer
  have hdot : '.' ∈ type.print := by simp [hprint]
  have hparse := TypeRef.parse?_print (.bare (hnames.cons hletter))
  have hmem := mem_bindings_resolve_empty hdot hparse hoffer
  rw [hbinding, hdotted, hprint] at hmem
  exact ⟨simple, hmem⟩

end Resolver

namespace Writer

variable {path className : Text} {dialect : Dialect}

theorem exists_create (hpath : Dialect.forPath path = .ok (dialect, className)) :
    ∃ writer, create path {} .lexical = .ok writer ∧ writer.resolver = ⟨dialect.policy, none⟩ := by
  simp only [create, hpath, Except.mapError, bind, Except.bind]
  exact ⟨_, rfl, rfl⟩

/-- A type of another package can be bound that is called like the class of the file. -/
theorem exists_writtenIn_binding (hpath : Dialect.forPath path = .ok (dialect, className))
    (hclass : IsQualifiedPath className) :
    ∃ file : SourceFile, file.WrittenIn path ['a'] ∧
      ∃ simple, (simple, ['b'] ++ '.' :: className) ∈ file.table.bindings := by
  obtain ⟨writer, hcreate, hresolver⟩ := exists_create hpath
  obtain ⟨-, -, hscope, htable, -⟩ := of_create hpath hcreate
  obtain ⟨names, hnames, hlength, rfl⟩ := hclass
  obtain ⟨simple, hmem⟩ := Resolver.exists_binding_unknown dialect (some ['a']) hnames hlength
  let calls : List Call := [.reference (['b'] ++ '.' :: Text.dotted names) 1]
  refine ⟨(writer.run (.package ['a'] :: calls)).2.finish,
    ⟨{}, .lexical, writer, calls, hcreate, by simp [calls], rfl⟩, simple, ?_⟩
  show _ ∈ (writer.resolver.resolve { writer.scope with package := some ['a'] } writer.table
    (['b'] ++ '.' :: Text.dotted names) 1).2.bindings
  rw [hresolver, hscope, htable]
  exact hmem

/-- Whatever a run calls for, the import block tells the class of the file by the same names as
references do, unless the table has a name of another package that ends with the name of that class.
At a given path this comes about in some run exactly when the name of the class is a qualified
path. -/
theorem agreesOnOwnClass_iff (hpath : Dialect.forPath path = .ok (dialect, className)) :
    (∀ (file : SourceFile) (package : Text), file.WrittenIn path package →
      (file.AgreesOnOwnClass ⟨className, some package⟩ ↔
        ∀ binding ∈ file.table.bindings, dialect.policy.isAmbient binding.2 = false →
          ∀ other, binding.2 = other ++ '.' :: className → other = package)) ∧
      ((∀ (file : SourceFile) (package : Text), file.WrittenIn path package →
        file.AgreesOnOwnClass ⟨className, some package⟩) ↔ ¬ IsQualifiedPath className) := by
  refine ⟨fun file package hfile => hfile.agreesOnOwnClass_iff_forall hpath, ?_, ?_⟩
  · intro hagrees hclass
    -- the run in package `a` that refers to a class of package `b`
    obtain ⟨file, hfile, simple, hbinding⟩ := exists_writtenIn_binding hpath hclass
    have hforall := (hfile.agreesOnOwnClass_iff_forall hpath).mp (hagrees file ['a'] hfile)
    have hsame := hforall _ hbinding (dialect.isAmbient_unknown _) ['b'] rfl
    exact absurd hsame (by decide)
  · intro hclass file package hfile
    rw [hfile.agreesOnOwnClass_iff_forall hpath]
    intro binding hbinding _ other hother
    exact hfile.eq_of_ends hpath hclass hbinding hother

/-- A path that names a class with a dot. -/
theorem agreesOnOwnClass_iff_dotted :
    Dialect.forPath "src/acme.Row.java".toList = .ok (.java, "acme.Row".toList) ∧
      (∀ (file : SourceFile) (package : Text),
        file.WrittenIn "src/acme.Row.java".toList package →
          (file.AgreesOnOwnClass ⟨"acme.Row".toList, some package⟩ ↔
            ∀ binding ∈ file.table.bindings,
              Dialect.java.policy.isAmbient binding.2 = false →
                ∀ other, binding.2 = other ++ '.' :: "acme.Row".toList → other = package)) ∧
      ((∀ (file : SourceFile) (package : Text),
        file.WrittenIn "src/acme.Row.java".toList package →
          file.AgreesOnOwnClass ⟨"acme.Row".toList, some package⟩) ↔
        ¬ IsQualifiedPath "acme.Row".toList) := by
  have hpath : Dialect.forPath "src/acme.Row.java".toList = .ok (.java, "acme.Row".toList) := by rfl
  exact ⟨hpath, agreesOnOwnClass_iff hpath⟩

/-- In a file of the package `org`, a class of the package `com.acme` is shortened and not imported,
since the class of the file is called `acme.Row`. -/
theorem dotted_class_not_imported :
    ∃ writer,
      create "acme.Row.java".toList {} .lexical = .ok writer ∧
      let file := (writer.run [.package "org".toList, .imports,
        .reference "com.acme.Row".toList 1]).2.finish
      ("Row".toList, "com.acme.Row".toList) ∈ file.table.bindings ∧
        file.dialect.policy.isAmbient "com.acme.Row".toList = false ∧
        ("com.acme.Row".toList, .ownClass) ∈ file.content.imports.elided ∧
        Scope.isSelf ⟨"acme.Row".toList, some "org".toList⟩ "com.acme.Row".toList = false := by
  refine ⟨_, rfl, ?_, ?_, ?_, ?_⟩
  · decide +kernel
  · decide +kernel
  · decide +kernel
  · decide +kernel

end Writer

end JvmSource
