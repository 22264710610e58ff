import JvmSource.Proofs.Resolver.Stability
import JvmSource.Proofs.TypeRef.RoundTrip

/-!
# Shortened references can be written out again

Where nothing is renamed, the text that is written in the place of a reference still says which type
is meant: it is read as a reference again, and putting the bound qualified name in the place of each
lone name gives the reference that was resolved, if its paths all have more than one name. The
bindings are looked up in the last table, which is enough because a table only grows.
-/

namespace JvmSource

/-- Whether the path of a reference and those of all arguments inside it have more than one name. -/
inductive TypeRef.AllQualified : TypeRef → Prop where
  | mk {names : List Text} {suffix : Suffix} (qualified : 1 < names.length)
      (args : ∀ bracket args, suffix = .plain bracket args → ∀ arg ∈ args, AllQualified arg.type) :
      AllQualified (.mk names suffix)

/-- A qualified reference has at least two names. -/
theorem TypeRef.AllQualified.one_lt {type : TypeRef} (h : type.AllQualified) :
    1 < type.names.length := by
  cases h
  assumption

namespace ImportTable

/-- The path that a path stands for: a lone name has to be bound. -/
def expandNames? (table : ImportTable) : List Text → Option (List Text)
  | [name] => (table.binding? name).map (Text.split '.')
  | names => some names

mutual

/-- The reference in which the qualified name is put in the place of each lone name. -/
def expand? (table : ImportTable) : TypeRef → Option TypeRef
  | .mk names suffix => do
    let names ← table.expandNames? names
    let suffix ← table.expandSuffix? suffix
    return .mk names suffix

/-- The suffix with the references of its argument list expanded. -/
def expandSuffix? (table : ImportTable) : Suffix → Option Suffix
  | .plain bracket args => do
    let args ← table.expandArgs? args
    return .plain bracket args
  | .empty => some .empty
  | .verbatim text => some (.verbatim text)

/-- The arguments with their references expanded. -/
def expandArgs? (table : ImportTable) : List TypeArg → Option (List TypeArg)
  | [] => some []
  | .mk type nullable :: args => do
    let type ← table.expand? type
    let args ← table.expandArgs? args
    return .mk type nullable :: args

end

end ImportTable

namespace Resolver

variable {resolver : Resolver} {scope : Scope} {rows : Nat}

/-! ## Where nothing is renamed -/

/-- Whether a resolver writes all types in the spelling that they have. -/
def KeepsNames (resolver : Resolver) : Prop := ∀ type, resolver.rename type = type

/-- All dialects but Kotlin keep the spelling of every type. -/
theorem keepsNames_of_policy {dialect : Dialect} (hdialect : dialect ≠ .kotlin)
    (hpolicy : resolver.policy = dialect.policy) : resolver.KeepsNames := by
  intro type
  unfold rename
  split
  · cases dialect with
    | java => exact Policy.nativeType_of_none (by rw [hpolicy]; rfl) (by rw [hpolicy]; rfl) type
    | scala => exact Policy.nativeType_of_none (by rw [hpolicy]; rfl) (by rw [hpolicy]; rfl) type
    | kotlin => exact absurd rfl hdialect
  · rfl

/-! ## The written text is read again -/

theorem shortenSuffix_verbatim (table : ImportTable) (text : Text) :
    resolver.shortenSuffix scope table (.verbatim text) = (.verbatim text, table) := by
  rw [shortenSuffix]

theorem shortenSuffix_empty (table : ImportTable) :
    resolver.shortenSuffix scope table .empty = (.empty, table) := by
  rw [shortenSuffix]

theorem shortenSuffix_plain (table : ImportTable) (bracket : Bracket) (args : List TypeArg) :
    resolver.shortenSuffix scope table (.plain bracket args) =
      (.plain bracket (resolver.shortenArgs scope table args).1,
        (resolver.shortenArgs scope table args).2) := by
  rw [shortenSuffix]

/-- A path loses names in front, never all of them, and a suffix changes in its arguments only. -/
theorem exists_drop_of_shorten (hkeeps : resolver.KeepsNames) (scope : Scope)
    (table : ImportTable) (type : TypeRef) (keep : Nat) :
    ∃ omitted written,
      (resolver.shorten scope table type keep).1 = .mk (type.names.drop omitted) written ∧
      (type.names ≠ [] → omitted < type.names.length) ∧
      (written = type.suffix ∨
        ∃ bound, written = (resolver.shortenSuffix scope bound type.suffix).1) := by
  rcases shorten_cases resolver scope table type keep with heq | ⟨offer, bound, hoffer, -, heq⟩
  · rw [hkeeps] at heq
    refine ⟨0, type.suffix, ?_, List.length_pos_of_ne_nil, Or.inl rfl⟩
    rw [heq]
    cases type
    rfl
  · rw [hkeeps] at heq hoffer
    refine ⟨offer.omitted, _, by rw [heq], fun _ => ?_, Or.inr ⟨bound, rfl⟩⟩
    exact (describes_of_offer? hoffer).2.2.omitted_lt

/-- Text that is kept was there before. -/
theorem suffix_of_shorten (hkeeps : resolver.KeepsNames) {table : ImportTable} {type : TypeRef}
    {keep : Nat} {text : Text}
    (h : (resolver.shorten scope table type keep).1.suffix = .verbatim text) :
    type.suffix = .verbatim text := by
  obtain ⟨omitted, written, heq, -, hwritten⟩ :=
    exists_drop_of_shorten hkeeps scope table type keep
  rw [heq] at h
  rcases hwritten with rfl | ⟨bound, rfl⟩
  · exact h
  · cases hsuffix : type.suffix with
    | empty => rwa [hsuffix, shortenSuffix_empty] at h
    | plain bracket args =>
      rw [hsuffix, shortenSuffix_plain] at h
      exact absurd h (by simp [TypeRef.suffix])
    | verbatim kept => rwa [hsuffix, shortenSuffix_verbatim] at h

/-- Shortening keeps the shape in which references are read. -/
theorem canonical_shorten (hkeeps : resolver.KeepsNames) {type : TypeRef}
    (h : type.Canonical rows) (table : ImportTable) (keep : Nat) :
    (resolver.shorten scope table type keep).1.Canonical rows := by
  induction h generalizing table keep with
  | @bare rows names path =>
    obtain ⟨omitted, written, heq, homitted, hwritten⟩ :=
      exists_drop_of_shorten hkeeps scope table (.mk names .empty) keep
    have hempty : written = .empty := by
      rcases hwritten with rfl | ⟨bound, rfl⟩
      · rfl
      · exact congrArg Prod.fst (shortenSuffix_empty bound)
    rw [heq, hempty]
    exact .bare (path.drop (homitted path.ne_nil))
  | @verbatim rows names text path ne_nil isSuffix unread =>
    obtain ⟨omitted, written, heq, homitted, hwritten⟩ :=
      exists_drop_of_shorten hkeeps scope table (.mk names (.verbatim text)) keep
    have hkept : written = .verbatim text := by
      rcases hwritten with rfl | ⟨bound, rfl⟩
      · rfl
      · exact congrArg Prod.fst (shortenSuffix_verbatim bound text)
    rw [heq, hkept]
    exact .verbatim (path.drop (homitted path.ne_nil)) ne_nil isSuffix unread
  | @plain rows names bracket args path ne_nil types pieces ih =>
    obtain ⟨omitted, written, heq, homitted, hwritten⟩ :=
      exists_drop_of_shorten hkeeps scope table (.mk names (.plain bracket args)) keep
    rw [heq]
    rcases hwritten with rfl | ⟨bound, rfl⟩
    · exact .plain (path.drop (homitted path.ne_nil)) ne_nil types pieces
    · -- there are as many arguments as before, and they keep their verbatim suffixes
      rw [TypeRef.suffix, shortenSuffix_plain]
      have hne : (resolver.shortenArgs scope bound args).1 ≠ [] := by
        apply List.ne_nil_of_length_pos
        rw [length_shortenArgs]
        exact List.length_pos_of_ne_nil ne_nil
      refine .plain (path.drop (homitted path.ne_nil)) hne ?_ ?_
      · intro written hmem
        obtain ⟨arg, harg, between, rfl⟩ := mem_shortenArgs hmem
        exact ih arg harg between 1
      · intro written hmem text htext
        obtain ⟨arg, harg, between, rfl⟩ := mem_shortenArgs hmem
        exact pieces arg harg text (suffix_of_shorten hkeeps htext)

end Resolver

/-! ## What is written out again -/

namespace ImportTable

variable {table : ImportTable}

/-- A qualified name is expanded to itself. -/
theorem expandNames?_of_qualified {names : List Text} (h : 1 < names.length) :
    table.expandNames? names = some names := by
  match names, h with
  | first :: second :: rest, _ => rfl

theorem expandArgs?_of_forall {args : List TypeArg}
    (h : ∀ arg ∈ args, table.expand? arg.type = some arg.type) :
    table.expandArgs? args = some args := by
  induction args with
  | nil => rfl
  | cons arg args ih =>
    obtain ⟨type, nullable⟩ := arg
    have htype : table.expand? type = some type := h _ (List.mem_cons_self ..)
    have hargs := ih fun arg harg => h arg (List.mem_cons_of_mem _ harg)
    simp [expandArgs?, htype, hargs]

/-- A reference without lone names is left as it is. -/
theorem expand?_of_allQualified {type : TypeRef} (h : type.AllQualified) :
    table.expand? type = some type := by
  induction h with
  | @mk names suffix qualified deeper ih =>
    have hsuffix : table.expandSuffix? suffix = some suffix := by
      cases suffix with
      | empty => rfl
      | verbatim text => rfl
      | plain bracket args =>
        have hargs := expandArgs?_of_forall (ih bracket args rfl)
        simp [expandSuffix?, hargs]
    simp [expand?, expandNames?_of_qualified qualified, hsuffix]

/-- A lone name that is bound stands for the path it was bound to. -/
theorem expandNames?_of_binding {names : List Text} {simple : Text} (hpath : IsPath names)
    (h : table.binding? simple = some (Text.dotted names)) :
    table.expandNames? [simple] = some names := by
  rw [expandNames?, h, Option.map_some, hpath.split_dotted]

end ImportTable

namespace Resolver

variable {resolver : Resolver} {scope : Scope} {rows : Nat}

/-- The one name that an offer leaves of a path, and what it is bound to. -/
theorem names_of_describes {offer : Offer} {names : List Text}
    (h : offer.Describes scope names (names.length - 1)) :
    names.drop offer.omitted = [offer.simple] ∧ offer.qualified = Text.dotted names := by
  have hposition := h.position_le
  have hshort := h.omitted_lt
  have homitted : offer.omitted = names.length - 1 := by omega
  constructor
  · have hlast : names.length - 1 < names.length := by omega
    have hsimple := h.simple_eq
    rw [List.getElem?_eq_getElem hlast, Option.some_inj] at hsimple
    rw [homitted, List.drop_eq_getElem_cons hlast, hsimple]
    simp only [List.cons.injEq, List.drop_eq_nil_iff, true_and]
    omega
  · rw [h.qualified_eq, List.take_of_length_le (by omega)]

/-- Shortened arguments are expanded to what they were, if each of them is. -/
theorem expandArgs?_shortenArgs {later : ImportTable} {args : List TypeArg}
    (h : ∀ arg ∈ args, ∀ table, later.Extends (resolver.shorten scope table arg.type 1).2 →
      later.expand? (resolver.shorten scope table arg.type 1).1 = some arg.type)
    (table : ImportTable) (hlater : later.Extends (resolver.shortenArgs scope table args).2) :
    later.expandArgs? (resolver.shortenArgs scope table args).1 = some args := by
  induction args generalizing table with
  | nil =>
    rw [shortenArgs]
    rfl
  | cons arg args ih =>
    obtain ⟨type, nullable⟩ := arg
    rw [shortenArgs] at hlater ⊢
    have hmiddle := hlater.trans (extends_shortenArgs resolver scope _ args)
    have htype := h _ (List.mem_cons_self ..) table hmiddle
    have hargs := ih (fun arg harg => h arg (List.mem_cons_of_mem _ harg)) _ hlater
    simp only [TypeArg.type] at htype
    simp [ImportTable.expandArgs?, htype, hargs]

/-- Writing out a shortened reference gives the reference, in every table that extends the one that
shortening left behind. -/
theorem expand?_shorten (hkeeps : resolver.KeepsNames) {type : TypeRef}
    (hcanonical : type.Canonical rows) (hqualified : type.AllQualified) (table : ImportTable)
    {later : ImportTable} (hlater : later.Extends (resolver.shorten scope table type 1).2) :
    later.expand? (resolver.shorten scope table type 1).1 = some type := by
  induction hqualified generalizing rows table with
  | @mk names suffix qualified deeper ih =>
    rcases shorten_cases resolver scope table (.mk names suffix) 1 with
      heq | ⟨offer, bound, hoffer, hbind, heq⟩
    · rw [heq, hkeeps]
      exact ImportTable.expand?_of_allQualified (.mk qualified deeper)
    rw [hkeeps] at hoffer heq
    rw [heq] at hlater ⊢
    obtain ⟨-, -, hdescribes⟩ := describes_of_offer? hoffer
    obtain ⟨hnames, hqualified⟩ := names_of_describes hdescribes
    have hpath : IsPath names := by cases hcanonical <;> assumption
    -- the binding is still there after the arguments and later
    have hgrown := hlater.trans (extends_shortenSuffix resolver scope bound _)
    have hbinding := hgrown _ _ (ImportTable.binding?_of_bind? hbind)
    rw [hqualified] at hbinding
    have hexpand : later.expandNames? (names.drop offer.omitted) = some names := by
      rw [show names.drop offer.omitted = [offer.simple] from hnames]
      exact ImportTable.expandNames?_of_binding hpath hbinding
    have hsuffix : later.expandSuffix? (resolver.shortenSuffix scope bound suffix).1 =
        some suffix := by
      cases suffix with
      | empty =>
        rw [shortenSuffix_empty]
        rfl
      | verbatim text =>
        rw [shortenSuffix_verbatim]
        rfl
      | plain bracket args =>
        rw [TypeRef.suffix, shortenSuffix_plain] at hlater
        rw [shortenSuffix_plain]
        cases hcanonical with
        | plain path ne_nil types pieces =>
          have hargs := expandArgs?_shortenArgs
            (fun arg harg table => ih bracket args rfl arg harg (types arg harg) table) bound hlater
          simp [ImportTable.expandSuffix?, hargs]
    show later.expand? (.mk (names.drop offer.omitted)
      (resolver.shortenSuffix scope bound suffix).1) = some (.mk names suffix)
    simp [ImportTable.expand?, hexpand, hsuffix]

/-! ## Texts -/

/-- A text that is read as a qualified reference has a dot. -/
theorem dot_mem_of_allQualified {text : Text} {type : TypeRef}
    (hparse : TypeRef.parse? text = some type) (h : type.AllQualified) : '.' ∈ text := by
  rw [TypeRef.parse?_eq, Option.map_eq_some_iff] at hparse
  obtain ⟨cut, hcut, rfl⟩ := hparse
  obtain ⟨-, rfl⟩ := TypeRef.cut?_eq_some_iff.mp hcut
  have hlength : 1 < cut.names.length := by
    rw [← TypeRef.names_descend TypeRef.maxDepth cut]
    exact h.one_lt
  exact List.mem_append_left _ (Text.dot_mem_dotted hlength)

/-- Where nothing is renamed, the text that is written in the place of a reference is read as a
reference again, and writing out its lone names gives the reference that was resolved. -/
theorem expand?_resolve {dialect : Dialect} (hdialect : dialect ≠ .kotlin)
    (hpolicy : resolver.policy = dialect.policy) (scope : Scope) (table : ImportTable)
    {text : Text} {type : TypeRef} (hparse : TypeRef.parse? text = some type)
    (hqualified : type.AllQualified) :
    ∃ written, TypeRef.parse? (resolver.resolve scope table text 1).1 = some written ∧
      (resolver.resolve scope table text 1).2.expand? written = some type := by
  have hkeeps := keepsNames_of_policy hdialect hpolicy
  have hcanonical := TypeRef.canonical_of_parse? hparse
  have hdot : text.contains '.' = true := by simpa using dot_mem_of_allQualified hparse hqualified
  have hresolve : resolver.resolve scope table text 1 =
      ((resolver.shorten scope table type 1).1.print, (resolver.shorten scope table type 1).2) := by
    rw [resolve, hdot, hparse, ← resolveType_eq]
    rfl
  refine ⟨(resolver.shorten scope table type 1).1, ?_, ?_⟩
  · rw [hresolve]
    exact TypeRef.parse?_print (canonical_shorten hkeeps hcanonical table 1)
  · rw [hresolve]
    exact expand?_shorten hkeeps hcanonical hqualified table (ImportTable.Extends.refl _)

/-- A map whose second argument is called like a type that is bound already. -/
theorem expand?_resolve_map :
    let table : ImportTable := {
      bindings := [("Row".toList, "org.old.Row".toList)]
      qualifiedNames := ["org.old.Row".toList] }
    let resolved := resolve ⟨Dialect.java.policy, none⟩ ⟨"Store".toList, none⟩ table
      "java.util.Map<java.lang.String,com.acme.Row[]>".toList 1
    ∃ type written,
      TypeRef.parse? "java.util.Map<java.lang.String,com.acme.Row[]>".toList = some type ∧
      type.AllQualified ∧ TypeRef.parse? resolved.1 = some written ∧
      resolved.2.expand? written = some type ∧
      resolved.1 = "Map<String, com.acme.Row[]>".toList ∧
      resolved.2.bindings =
        [("Map", "java.util.Map"), ("Row", "org.old.Row"), ("String", "java.lang.String")].map
          (fun binding => (binding.1.toList, binding.2.toList)) := by
  intro table resolved
  let map : TypeRef := .mk ["java".toList, "util".toList, "Map".toList] (.plain .angle
    [.mk (.mk ["java".toList, "lang".toList, "String".toList] .empty) false,
      .mk (.mk ["com".toList, "acme".toList, "Row".toList] (.verbatim "[]".toList)) false])
  have hparse : TypeRef.parse? "java.util.Map<java.lang.String,com.acme.Row[]>".toList =
      some map := by
    rw [TypeRef.parse?_eq]
    rfl
  have hqualified : map.AllQualified := by
    refine .mk (by decide) fun bracket args hargs arg harg => ?_
    cases hargs
    simp only [List.mem_cons, List.not_mem_nil, or_false] at harg
    rcases harg with rfl | rfl
    · exact .mk (by decide) fun bracket args hargs => absurd hargs (by simp)
    · exact .mk (by decide) fun bracket args hargs => absurd hargs (by simp)
  have hjava : Dialect.java ≠ .kotlin := by decide
  have hlossless : ∃ written, TypeRef.parse? resolved.1 = some written ∧
      resolved.2.expand? written = some map :=
    expand?_resolve hjava rfl ⟨"Store".toList, none⟩ table hparse hqualified
  obtain ⟨written, hwritten, hexpand⟩ := hlossless
  -- the reference is not shortened where its simple name is taken
  have htext : resolved.1 = "Map<String, com.acme.Row[]>".toList := by decide +kernel
  exact ⟨map, written, hparse, hqualified, hwritten, hexpand, htext, by decide +kernel⟩

end Resolver

end JvmSource
