import Mathlib.Data.List.Nodup
import Mathlib.Tactic.Common
import JvmSource.Proofs.Json.Values
import JvmSource.Proofs.Script.Encoding

/-!
# Scripts are read as they are written

However a script is written, reading it gives back its steps. An object is read by looking up keys,
so neither their order nor keys that mean nothing make a difference; arguments are told apart by the
form of their values alone. Lists within one another may be as deep as the reader of JSON goes.
-/

namespace JvmSource.Script

/-! ## Objects -/

section

variable {members : List (Text × Json)}

/-- In an object that has every key once, each member is found by its key. -/
theorem lookup_of_distinct (h : (members.map Prod.fst).Nodup) {key : Text} {value : Json}
    (hmem : (key, value) ∈ members) : members.lookup key = some value := by
  induction members with
  | nil => exact absurd hmem List.not_mem_nil
  | cons first members ih =>
    obtain ⟨first, firstValue⟩ := first
    obtain ⟨hfirst, hrest⟩ := List.nodup_cons.mp h
    rcases List.mem_cons.mp hmem with heq | hlater
    · obtain ⟨rfl, rfl⟩ := Prod.mk.inj heq
      exact List.lookup_cons_self
    · have hne : (key == first) = false := by
        apply beq_eq_false_iff_ne.mpr
        rintro rfl
        exact hfirst (List.mem_map.mpr ⟨_, hlater, rfl⟩)
      simpa only [List.lookup_cons, hne] using ih hrest hlater

/-- A key that no member has is not found. -/
theorem lookup_eq_none_of_ne {key : Text} (h : ∀ member ∈ members, member.1 ≠ key) :
    members.lookup key = none := by
  rw [List.lookup_eq_none_iff]
  intro member hmember
  simpa using (h member hmember).symm

/-- An object that has every key once is unambiguous. -/
theorem unambiguous_of_distinct (h : (members.map Prod.fst).Nodup) (keys : List Text) :
    unambiguous keys members = true := by
  rw [unambiguous, List.all_eq_true]
  intro key _
  have hcount := List.nodup_iff_count_le_one.mp h key
  rw [List.count_eq_countP, List.countP_map] at hcount
  exact decide_eq_true hcount

end

theorem keepOf?_integer (value : Int) :
    keepOf? (some (.integer value)) =
      if 0 ≤ value ∧ value < UInt64.size then some (UInt64.ofNat value.toNat) else none := rfl

namespace HasFields

variable {fields : List Field} {room : Nat} {members : List (Text × Json)} {field : Field}

/-- What is found under the key of a field: a value for what it holds, or nothing if it may be left
out. -/
theorem lookup (h : HasFields fields room members) (hfield : field ∈ fields) :
    (∃ value, members.lookup field.key = some value ∧ field.Holds value) ∨
      field.Optional ∧ members.lookup field.key = none := by
  rcases h.written field hfield with ⟨value, hmem, hholds⟩ | ⟨hoptional, hnone⟩
  · exact Or.inl ⟨value, lookup_of_distinct h.distinct hmem, hholds⟩
  · exact Or.inr ⟨hoptional, lookup_eq_none_of_ne hnone⟩

/-- An object goes no deeper than its fields and what is left to the keys that mean nothing. -/
theorem fitsIn (h : HasFields fields room members)
    (hfields : ∀ field ∈ fields, ∀ value, field.Holds value → value.FitsIn room) :
    (Json.object members).FitsIn (room + 1) := by
  intro member hmember
  by_cases hknown : ∃ field ∈ fields, member.1 = field.key
  · obtain ⟨field, hfield, hkey⟩ := hknown
    -- keys are distinct, so the member is the one that the field is written as
    have hfound := lookup_of_distinct h.distinct hmember
    rw [hkey] at hfound
    rcases h.lookup hfield with ⟨value, hvalue, hholds⟩ | ⟨-, hnone⟩
    · rw [hfound] at hvalue
      rw [Option.some.inj hvalue]
      exact hfields field hfield value hholds
    · rw [hfound] at hnone
      exact absurd hnone (by simp)
  · apply h.unknown member hmember
    intro field hfield heq
    exact hknown ⟨field, hfield, heq⟩

variable {key text : Text}

/-- A text field is found as it was written. -/
theorem lookup_text (h : HasFields fields room members) (hfield : .text key text ∈ fields) :
    members.lookup key = some (.string text) := by
  rcases h.lookup hfield with ⟨value, hvalue, hholds⟩ | ⟨hoptional, -⟩
  · rw [← show value = .string text from hholds]
    exact hvalue
  · exact hoptional.elim

/-- A text field that may be left out is read as written, or as the empty text. -/
theorem textOf?_orEmpty (h : HasFields fields room members)
    (hfield : .textOrEmpty key text ∈ fields) :
    textOf? ((members.lookup key).or (some (.string []))) = some text := by
  rcases h.lookup hfield with ⟨value, hvalue, hholds⟩ | ⟨hempty, hnone⟩
  · rw [show members.lookup key = some value from hvalue, show value = .string text from hholds]
    rfl
  · rw [show members.lookup key = none from hnone, show text = [] from hempty]
    rfl

/-- A flag that may be left out is read as written, or as its default. -/
theorem boolOr?_lookup (h : HasFields fields room members) {default value : Bool}
    (hfield : .boolOr default key value ∈ fields) :
    boolOr? default (members.lookup key) = some value := by
  rcases h.lookup hfield with ⟨json, hjson, hholds⟩ | ⟨hdefault, hnone⟩
  · rw [show members.lookup key = some json from hjson, show json = .bool value from hholds]
    rfl
  · rw [show members.lookup key = none from hnone, show value = default from hdefault]
    rfl

/-- A number of names is read as written, or as its default. -/
theorem keepOf?_lookup (h : HasFields fields room members) {keep : UInt64}
    (hfield : .keep key keep ∈ fields) : keepOf? (members.lookup key) = some keep := by
  rcases h.lookup hfield with ⟨json, hjson, hholds⟩ | ⟨hdefault, hnone⟩
  · have hrange : 0 ≤ (keep.toNat : Int) ∧ (keep.toNat : Int) < UInt64.size :=
      ⟨Int.natCast_nonneg _, Int.ofNat_lt.mpr keep.toNat_lt_size⟩
    rw [show members.lookup key = some json from hjson,
      show json = .integer keep.toNat from hholds, keepOf?_integer, if_pos hrange,
      Int.toNat_natCast, UInt64.ofNat_toNat]
  · rw [show members.lookup key = none from hnone, show keep = 1 from hdefault]
    rfl

end HasFields

/-! ## Arguments -/

/-- An object with the fields of a reference is read as that reference. -/
theorem referenceOf?_of_hasFields {type : Text} {keep : UInt64} {room : Nat}
    {members : List (Text × Json)}
    (h : HasFields [.text "type".toList type, .keep "keep".toList keep] room members) :
    referenceOf? members = some (.reference type keep) := by
  have htype : members.lookup "type".toList = some (.string type) := h.lookup_text (by simp)
  have hkeep : keepOf? (members.lookup "keep".toList) = some keep := h.keepOf?_lookup (by simp)
  unfold referenceOf?
  simp only [unambiguous_of_distinct h.distinct, htype, hkeep]
  rfl

mutual

/-- An argument is read as it is written. -/
theorem argOf?_of_isWritten : (arg : Arg) → (room : Nat) → (json : Json) →
    arg.IsWritten room json → argOf? json = some arg
  | .reference type keep, room, json, h => by
    obtain ⟨members, rfl, hfields⟩ := h
    exact referenceOf?_of_hasFields hfields
  | .list items, room, json, h => by
    obtain ⟨values, rfl, hitems⟩ := h
    rw [argOf?, argsOf?_of_areWritten items (room - 1) values hitems]
    rfl
  | .bool value, room, json, h => by
    rw [show json = .bool value from h]
    rfl
  | .int value, room, json, h => by
    have hrange : Int64.minValue.toInt ≤ value.toInt ∧ value.toInt ≤ Int64.maxValue.toInt :=
      ⟨value.minValue_le_toInt, value.toInt_le⟩
    rw [show json = .integer value.toInt from h, argOf?, if_pos hrange, Int64.ofInt_toInt]
  | .text value, room, json, h => by
    rw [show json = .string value from h]
    rfl

/-- Written arguments are read as the arguments that they were written for. -/
theorem argsOf?_of_areWritten : (args : List Arg) → (room : Nat) → (values : List Json) →
    Arg.AreWritten args room values → argsOf? values = some args
  | [], room, values, h => by
    rw [show values = [] from h]
    rfl
  | arg :: args, room, values, h => by
    obtain ⟨value, rest, rfl, hfirst, hrest⟩ := h
    rw [argsOf?, argOf?_of_isWritten arg room value hfirst,
      argsOf?_of_areWritten args room rest hrest]
    rfl

end

/-! ## Steps -/

/-- Each kind of step is found by its name. -/
theorem Kind.ofName?_name (kind : Kind) : ofName? kind.name = some kind := by
  cases kind <;> decide

/-- A list of arguments that may be left out is read as written, or as the empty list. -/
theorem HasFields.argListOf?_lookup {fields : List Field} {room : Nat}
    {members : List (Text × Json)} (h : HasFields fields room members) {key : Text}
    {args : List Arg} (hfield : .args key args room ∈ fields) :
    argListOf? (members.lookup key) = some args := by
  rcases h.lookup hfield with ⟨json, hjson, values, rfl, hvalues⟩ | ⟨hempty, hnone⟩
  · rw [show members.lookup key = some (.array values) from hjson]
    exact argsOf?_of_areWritten args (room - 1) values hvalues
  · rw [show members.lookup key = none from hnone, show args = [] from hempty]
    rfl

/-- The fields of a step are read as they are written. -/
theorem stepOf?_of_hasFields (step : Step) {fields : List Field} {room : Nat}
    {members : List (Text × Json)} (h : HasFields fields room members)
    (hfields : ∀ field ∈ step.fields room, field ∈ fields) :
    stepOf? step.kind (step.kind.keys.map fun key => members.lookup key) = some step := by
  cases step with
  | package name =>
    have hname : members.lookup "name".toList = some (.string name) :=
      h.lookup_text (hfields _ (by simp [Step.fields]))
    simp only [Step.kind, Kind.keys, List.map_cons, List.map_nil, stepOf?, hname]
    rfl
  | imports => rfl
  | serial => rfl
  | docComment text args | header text args | print text args =>
    have htext : members.lookup "text".toList = some (.string text) :=
      h.lookup_text (hfields _ (by simp [Step.fields]))
    have hargs : argListOf? (members.lookup "args".toList) = some args :=
      h.argListOf?_lookup (hfields _ (by simp [Step.fields]))
    simp only [Step.kind, Kind.keys, List.map_cons, List.map_nil, stepOf?, htext, hargs]
    rfl
  -- these two have defaults, which stand for the fields when they are left out
  | override wanted inherited =>
    have hwanted : boolOr? true (members.lookup "when".toList) = some wanted :=
      h.boolOr?_lookup (hfields _ (by simp [Step.fields]))
    have hinherited : boolOr? false (members.lookup "inherit".toList) = some inherited :=
      h.boolOr?_lookup (hfields _ (by simp [Step.fields]))
    simp only [Step.kind, Kind.keys, List.map_cons, List.map_nil, stepOf?, hwanted, hinherited]
    rfl
  | println text args =>
    have htext : textOf? ((members.lookup "text".toList).or (some (.string []))) = some text :=
      h.textOf?_orEmpty (hfields _ (by simp [Step.fields]))
    have hargs : argListOf? (members.lookup "args".toList) = some args :=
      h.argListOf?_lookup (hfields _ (by simp [Step.fields]))
    simp only [Step.kind, Kind.keys, List.map_cons, List.map_nil, stepOf?, htext, hargs]
    rfl

/-- A written step is read as the step that it was written for. -/
theorem stepOfJson?_of_isWritten {step : Step} {room : Nat} {json : Json}
    (h : step.IsWritten room json) : stepOfJson? json = some step := by
  obtain ⟨members, rfl, hfields⟩ := h
  have hkind : members.lookup kindKey = some (.string step.kind.name) :=
    hfields.lookup_text List.mem_cons_self
  have hstep := stepOf?_of_hasFields step hfields fun field hfield => List.mem_cons_of_mem _ hfield
  show stepOfObject? members = some step
  unfold stepOfObject?
  simp only [hkind, textOf?, Json.text?, Option.bind_eq_bind, Option.bind_some,
    Kind.ofName?_name, unambiguous_of_distinct hfields.distinct, if_true]
  exact hstep

/-! ## Depth -/

/-- What is neither an array nor an object fits in any depth. -/
theorem fitsIn_of_scalar {json : Json} (harray : ∀ items, json ≠ .array items)
    (hobject : ∀ members, json ≠ .object members) (depth : Nat) : json.FitsIn depth := by
  cases json with
  | array items => exact absurd rfl (harray items)
  | object members => exact absurd rfl (hobject members)
  | _ => cases depth <;> trivial

/-- In lists that are related in step, each element of the second is related to one of the first. -/
theorem exists_of_mem_forall₂ {α β : Type} {R : α → β → Prop} {xs : List α} {ys : List β}
    (h : List.Forall₂ R xs ys) {y : β} (hy : y ∈ ys) : ∃ x ∈ xs, R x y := by
  induction h with
  | nil => exact absurd hy List.not_mem_nil
  | @cons x first xs ys hfirst _ ih =>
    rcases List.mem_cons.mp hy with rfl | hlater
    · exact ⟨x, List.mem_cons_self, hfirst⟩
    · obtain ⟨found, hfound, hrelated⟩ := ih hlater
      exact ⟨found, List.mem_cons_of_mem _ hfound, hrelated⟩

/-- Written arguments are written one by one, in their order. -/
theorem Arg.forall₂_of_areWritten {args : List Arg} {room : Nat} {values : List Json}
    (h : AreWritten args room values) :
    List.Forall₂ (fun arg value => arg.IsWritten room value) args values := by
  induction args generalizing values with
  | nil =>
    rw [show values = [] from h]
    exact .nil
  | cons arg args ih =>
    obtain ⟨value, rest, rfl, hfirst, hrest⟩ := h
    exact .cons hfirst (ih hrest)

/-- An argument that is no list is an object at most. -/
theorem Arg.fitsIn_of_not_list {arg : Arg} {room : Nat} {json : Json}
    (h : arg.IsWritten (room + 1) json) (hlist : ∀ items, arg ≠ .list items) :
    json.FitsIn (room + 1) := by
  cases arg with
  | list items => exact absurd rfl (hlist items)
  | bool | int | text =>
    obtain rfl := h
    exact fitsIn_of_scalar (by simp) (by simp) _
  | reference type keep =>
    obtain ⟨members, rfl, hfields⟩ := h
    apply hfields.fitsIn
    intro field hfield value hvalue
    simp only [List.mem_cons, List.not_mem_nil, or_false] at hfield
    rcases hfield with rfl | rfl
    all_goals
      rw [hvalue]
      exact fitsIn_of_scalar (by simp) (by simp) _

/-- A reference goes one level deeper than the lists that it lies in. -/
theorem Arg.fitsIn_of_isWritten {arg : Arg} {room depth : Nat} {json : Json}
    (h : arg.IsWritten room json) (hnests : arg.NestsIn depth) (hroom : depth < room) :
    json.FitsIn room := by
  induction depth generalizing arg room json with
  | zero =>
    obtain ⟨room, rfl⟩ := Nat.exists_eq_add_one_of_ne_zero (Nat.ne_of_gt hroom)
    apply fitsIn_of_not_list h
    rintro items rfl
    exact hnests
  | succ depth ih =>
    obtain ⟨room, rfl⟩ := Nat.exists_eq_add_one_of_ne_zero (Nat.ne_of_gt (Nat.zero_lt_of_lt hroom))
    by_cases hlist : ∃ items, arg = .list items
    · obtain ⟨items, rfl⟩ := hlist
      obtain ⟨values, rfl, hitems⟩ := h
      intro value hvalue
      obtain ⟨item, hitem, hwritten⟩ := exists_of_mem_forall₂ (forall₂_of_areWritten hitems) hvalue
      exact ih hwritten (hnests item hitem) (by omega)
    · exact fitsIn_of_not_list h fun items heq => hlist ⟨items, heq⟩

/-- A field of a step other than that of the arguments holds no other value. -/
theorem Step.fitsIn_or_args {step : Step} {room : Nat} {field : Field} {value : Json}
    (hfield : field ∈ step.fields room) (hvalue : field.Holds value) :
    (∀ depth, value.FitsIn depth) ∨ (Field.args "args".toList step.args room).Holds value := by
  have hscalar : (∃ text, value = .string text) ∨ (∃ truth, value = .bool truth) →
      ∀ depth, value.FitsIn depth := by
    rintro (⟨text, rfl⟩ | ⟨truth, rfl⟩) <;> exact fitsIn_of_scalar (by simp) (by simp)
  cases step with
  | imports | serial => exact absurd hfield List.not_mem_nil
  | package name =>
    obtain rfl := List.mem_singleton.mp hfield
    exact Or.inl (hscalar (Or.inl ⟨_, hvalue⟩))
  | docComment text args | header text args | println text args | print text args =>
    rcases List.mem_pair.mp hfield with rfl | rfl
    · exact Or.inl (hscalar (Or.inl ⟨_, hvalue⟩))
    · exact Or.inr hvalue
  | override wanted inherited =>
    rcases List.mem_pair.mp hfield with rfl | rfl <;> exact Or.inl (hscalar (Or.inr ⟨_, hvalue⟩))

/-- A step goes two levels deeper than its arguments: it is an object with a list of them. -/
theorem Step.fitsIn_of_isWritten {step : Step} {room depth : Nat} {json : Json}
    (h : step.IsWritten room json) (hnests : ∀ arg ∈ step.args, arg.NestsIn depth)
    (hroom : depth + 2 < room) : json.FitsIn room := by
  obtain ⟨room, rfl⟩ : ∃ n, room = n + 2 := ⟨room - 2, by omega⟩
  obtain ⟨members, rfl, hfields⟩ := h
  have hargs : ∀ value, (Field.args "args".toList step.args (room + 1)).Holds value →
      value.FitsIn (room + 1) := by
    rintro _ ⟨values, rfl, hvalues⟩
    intro value hvalue
    obtain ⟨arg, harg, hwritten⟩ := exists_of_mem_forall₂ (Arg.forall₂_of_areWritten hvalues) hvalue
    exact Arg.fitsIn_of_isWritten hwritten (hnests arg harg) (by omega)
  apply hfields.fitsIn
  intro field hfield value hvalue
  rcases List.mem_cons.mp hfield with rfl | hfield
  · rw [show value = .string step.kind.name from hvalue]
    exact fitsIn_of_scalar (by simp) (by simp) _
  · rcases Step.fitsIn_or_args hfield hvalue with hfits | hvalues
    · exact hfits _
    · exact hargs value hvalues

/-! ## Scripts -/

/-- Written steps are read one by one as the script that they were written for. -/
theorem mapM_stepOfJson? {script : Script} {values : List Json} {room : Nat}
    (h : List.Forall₂ (fun step value => step.IsWritten room value) script values) :
    values.mapM stepOfJson? = some script := by
  induction h with
  | nil => rfl
  | cons hfirst _ ih =>
    rw [List.mapM_cons, stepOfJson?_of_isWritten hfirst, ih]
    rfl

/-- A script is read as it is written. -/
theorem parse_of_isWritten {script : Script} {json : Json} {text : Text}
    (hwritten : IsWritten script json)
    (hnests : ∀ step ∈ script, ∀ arg ∈ step.args, arg.NestsIn 100) (htext : json.IsTextOf text) :
    parse text = .ok script := by
  obtain ⟨values, rfl, hsteps⟩ := hwritten
  have hfits : (Json.array values).FitsIn Json.maxDepth := by
    intro value hvalue
    obtain ⟨step, hstep, hwritten⟩ := exists_of_mem_forall₂ hsteps hvalue
    exact Step.fitsIn_of_isWritten hwritten (hnests step hstep) (by decide)
  have hread : parse? text = some script := by
    rw [parse?, Json.parse?_of_isTextOf htext hfits]
    exact mapM_stepOfJson? hsteps
  rw [parse, hread]

/-- A reference with the greatest number of names and the least integer, in lists within one
another, with an escaped character, keys out of order, a text left out and a key that means
nothing. -/
theorem parse_of_isWritten_extremes :
    let args : List Arg := [.reference "a.B".toList 18446744073709551615,
      .list [.list [], .int Int64.minValue]]
    let script : Script := [.println [] args]
    let text := "[ \x7b\"args\": [\x7b\"keep\":18446744073709551615,\"type\":\"a.\\u0042\"\x7d,".toList ++
      "[[],-9223372036854775808]],\"step\":\"println\",\"x\":null\x7d]".toList
    (∀ step ∈ script, ∀ arg ∈ step.args, arg.NestsIn 100) ∧
      (∃ json : Json, IsWritten script json ∧ json.IsTextOf text) ∧ parse text = .ok script := by
  intro args script text
  let reference : List (Text × Json) :=
    [("keep".toList, .integer 18446744073709551615), ("type".toList, .string "a.B".toList)]
  let lists : List Json := [.array [], .integer (-9223372036854775808)]
  let members : List (Text × Json) := [("args".toList, .array [.object reference, .array lists]),
    ("step".toList, .string "println".toList), ("x".toList, .null)]
  have hnests : ∀ step ∈ script, ∀ arg ∈ step.args, arg.NestsIn 100 := by
    simp [script, args, Step.args, Arg.NestsIn]
  have hwritten : IsWritten script (.array [.object members]) := by
    have hreference : HasFields [.text "type".toList "a.B".toList,
        .keep "keep".toList 18446744073709551615] 123 reference := by
      refine ⟨by decide, ?_, ?_⟩ <;> simp [reference, Field.text, Field.keep]
    have hargs : Arg.AreWritten args 124 [.object reference, .array lists] :=
      ⟨_, _, rfl, ⟨_, rfl, hreference⟩, _, _, rfl,
        ⟨_, rfl, _, _, rfl, ⟨_, rfl, rfl⟩, _, _, rfl, rfl, rfl⟩, rfl⟩
    refine ⟨_, rfl, .cons ⟨members, rfl, by decide, ?_, ?_⟩ .nil⟩
    · intro field hfield
      simp only [Step.fields, List.mem_cons, List.not_mem_nil, or_false] at hfield
      rcases hfield with rfl | rfl | rfl
      · exact Or.inl ⟨_, List.mem_cons_of_mem _ List.mem_cons_self, rfl⟩
      · exact Or.inr ⟨rfl, by decide⟩
      · exact Or.inl ⟨_, List.mem_cons_self, _, rfl, hargs⟩
    · simp [members, Field.text, Field.args, Step.fields, Field.textOrEmpty, Json.FitsIn]
  have htext : (Json.array [.object members]).IsTextOf text := by
    have hnil := Json.blank_nil
    have hspace : Json.Blank [' '] := by
      intro c hc
      rw [List.mem_singleton.mp hc]
      decide
    have hplain : ∀ {key : Text}, key.all Json.isPlain = true → Json.SpellsText key key :=
      Json.spellsText_of_plain
    have hescaped : Json.SpellsText "B".toList _ :=
      .cons (.units (.cons (b := "0042".toList) ⟨rfl, List.all_eq_true.mp rfl, rfl⟩ .nil)) .nil
    have htype : Json.SpellsText "a.B".toList _ :=
      .cons (.plain (by decide) (by decide) (by decide))
        (.cons (.plain (by decide) (by decide) (by decide)) hescaped)
    have hkeepMember :
        Json.SpellsMember Json.Spells ("keep".toList, .integer 18446744073709551615) _ :=
      .mk (hplain rfl) hnil hnil (.integer (by decide) (by decide))
    have hreference : (Json.object reference).Spells _ :=
      .object (.items (.cons hnil hkeepMember hnil
        (.last hnil (.mk (hplain rfl) hnil hnil (.string htype)) hnil)))
    have hlists : (Json.array lists).Spells _ :=
      .array (.items (.cons hnil (.array (.empty hnil)) hnil
        (.last hnil (.integer (by decide) (by decide)) hnil)))
    have hargsMember : Json.SpellsMember Json.Spells ("args".toList, .array _) _ :=
      .mk (hplain rfl) hnil hspace
        (.array (.items (.cons hnil hreference hnil (.last hnil hlists hnil))))
    have hstepMember :
        Json.SpellsMember Json.Spells ("step".toList, .string "println".toList) _ :=
      .mk (hplain rfl) hnil hnil (.string (hplain rfl))
    have hmembers : (Json.object members).Spells _ :=
      .object (.items (.cons hnil hargsMember hnil
        (.cons hnil hstepMember hnil
          (.last hnil (.mk (hplain rfl) hnil hnil .null) hnil))))
    have hscript := Json.IsTextOf.mk hnil (.array (.items (.last hspace hmembers hnil))) hnil
    convert hscript using 1
    decide +kernel
  exact ⟨hnests, ⟨_, hwritten, htext⟩, parse_of_isWritten hwritten hnests htext⟩

end JvmSource.Script
