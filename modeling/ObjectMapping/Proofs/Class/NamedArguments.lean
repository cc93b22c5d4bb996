import ObjectMapping.Class.Signature
import ObjectMapping.Proofs.Value.Effect

/-!
# Records that are given all values by name

Every parameter of a record takes its argument by name. If all of them are given and
nothing else is, then binding succeeds, and each parameter gets the value under its name
(`RecordLayout.IsGivenAll.bindAll_ends`). If there is anything else, it fails
(`RecordLayout.exists_parameter_of_bindArguments?`).
-/

namespace ObjectMapping

/-- A parameter that is not for the constructor only is for a stored field. -/
theorem RecordField.isStored_of_isParameter {f : RecordField} (notInitOnly : f.kind ≠ .initOnly)
    (isParameter : f.isParameter = true) : f.kind = .stored := by
  cases kind : f.kind with
  | stored => rfl
  | initOnly => exact absurd kind notInitOnly
  | classLevel => simp [RecordField.isParameter, kind] at isParameter

/-- The arguments by name give a value for each parameter, and for nothing else. -/
structure RecordLayout.IsGivenAll (layout : RecordLayout) (named : Entries String Value) :
    Prop where
  each : ∀ f ∈ layout.fields, f.isParameter = true → ∃ v, Entries.get? named f.name = some v
  only : ∀ entry ∈ named, ∃ f ∈ layout.fields, f.isParameter = true ∧ f.name = entry.1

namespace RecordLayout

variable {layout : RecordLayout} {named : Entries String Value}

theorem mem_parameters_iff (p : Parameter) :
    p ∈ layout.parameters ↔ ∃ f ∈ layout.fields, f.isParameter = true ∧ f.parameter = p := by
  simp only [parameters, List.mem_map, List.mem_append, List.mem_filter]
  constructor
  · rintro ⟨f, ⟨⟨mem, isParameter⟩, -⟩ | ⟨⟨mem, isParameter⟩, -⟩, same⟩
    · exact ⟨f, mem, isParameter, same⟩
    · exact ⟨f, mem, isParameter, same⟩
  · rintro ⟨f, mem, isParameter, same⟩
    cases nameOnly : f.nameOnly with
    | false => exact ⟨f, .inl ⟨⟨mem, isParameter⟩, by simp [nameOnly]⟩, same⟩
    | true => exact ⟨f, .inr ⟨⟨mem, isParameter⟩, nameOnly⟩, same⟩

theorem mem_names_parameters_iff (name : String) :
    name ∈ layout.parameters.map (·.name) ↔
      ∃ f ∈ layout.fields, f.isParameter = true ∧ f.name = name := by
  simp only [List.mem_map, mem_parameters_iff]
  constructor
  · rintro ⟨_, ⟨f, mem, isParameter, rfl⟩, same⟩
    exact ⟨f, mem, isParameter, same⟩
  · rintro ⟨f, mem, isParameter, same⟩
    exact ⟨f.parameter, ⟨f, mem, isParameter, rfl⟩, same⟩

/-- Every parameter of a record takes its argument by name. -/
theorem byName_of_mem_parameters {p : Parameter} (mem : p ∈ layout.parameters) :
    p.kind = .standard ∨ p.kind = .nameOnly := by
  obtain ⟨f, -, -, rfl⟩ := (mem_parameters_iff p).mp mem
  cases nameOnly : f.nameOnly with
  | false => exact .inl (by simp [RecordField.parameter, nameOnly])
  | true => exact .inr (by simp [RecordField.parameter, nameOnly])

/-- Arguments that can be bound are for parameters only. -/
theorem exists_parameter_of_bindArguments? {bindings : List Binding}
    (bound : bindArguments? layout.parameters { named := named } = some bindings)
    {entry : String × Value} (mem : entry ∈ named) :
    ∃ f ∈ layout.fields, f.isParameter = true ∧ f.name = entry.1 := by
  have noRest : layout.parameters.any (·.kind == .restByName) = false := by
    rw [List.any_eq_false]
    intro p memParameters
    rcases byName_of_mem_parameters memParameters with kind | kind <;> simp [kind]
  by_cases listed : ∃ f ∈ layout.fields, f.isParameter = true ∧ f.name = entry.1
  · exact listed
  · have isSurplus : entry ∈ surplusOf layout.parameters named := by
      refine List.mem_filter.mpr ⟨mem, ?_⟩
      simp only [Bool.not_eq_true', List.any_eq_false, Bool.and_eq_true, beq_iff_eq, not_and]
      intro p memParameters _ same
      obtain ⟨f, isField, isParameter, rfl⟩ := (mem_parameters_iff p).mp memParameters
      exact listed ⟨f, isField, isParameter, same⟩
    have notEmpty : (surplusOf layout.parameters named).isEmpty = false := by
      cases surplus : surplusOf layout.parameters named with
      | nil => simp [surplus] at isSurplus
      | cons => rfl
    simp [bindArguments?, notEmpty, noRest] at bound

theorem bindParameters_named {surplus : Entries String Value} {parameters : List Parameter}
    (kinds : ∀ p ∈ parameters, p.kind = .standard ∨ p.kind = .nameOnly)
    (given : ∀ p ∈ parameters, ∃ v, Entries.get? named p.name = some v) :
    bindParameters named surplus parameters [] =
      some (parameters.map fun p => .value ((Entries.get? named p.name).getD .null)) := by
  induction parameters with
  | nil => rfl
  | cons p rest ih =>
    obtain ⟨kind, kindsRest⟩ := List.forall_mem_cons.mp kinds
    obtain ⟨⟨v, isGiven⟩, givenRest⟩ := List.forall_mem_cons.mp given
    have others := ih kindsRest givenRest
    rcases kind with kind | kind
    · simp [bindParameters, kind, Parameter.byName, Parameter.byPosition, isGiven, others]
    · simp [bindParameters, kind, Parameter.byName, Parameter.byPosition, isGiven, others]

/-- If all parameters are given by name, they get these values. -/
theorem IsGivenAll.bindAll_ends (all : layout.IsGivenAll named) (classes : ClassTable Code)
    (w : World) :
    (classes.bindAll layout.parameters { named := named }).Ends w
      (layout.parameters.map fun p => (Entries.get? named p.name).getD .null) w := by
  have isFor (entry : String × Value) (mem : entry ∈ named) :
      ∃ p ∈ layout.parameters, p.byName = true ∧ p.name = entry.1 := by
    obtain ⟨f, isField, isParameter, same⟩ := all.only entry mem
    have isListed : f.parameter ∈ layout.parameters :=
      (mem_parameters_iff _).mpr ⟨f, isField, isParameter, rfl⟩
    refine ⟨f.parameter, isListed, ?_, same⟩
    rcases byName_of_mem_parameters isListed with kind | kind <;> simp [Parameter.byName, kind]
  have noSurplus : surplusOf layout.parameters named = [] := by
    refine List.filter_eq_nil_iff.mpr fun entry mem => ?_
    obtain ⟨p, isListed, byName, same⟩ := isFor entry mem
    simp only [Bool.not_eq_true', Bool.not_eq_false, List.any_eq_true, Bool.and_eq_true, beq_iff_eq]
    exact ⟨p, isListed, byName, same⟩
  have notSelf : givesSelf layout.parameters { named := named } = false := by
    rw [givesSelf, Bool.and_eq_false_imp, Entries.contains_iff_mem_keys]
    intro mem
    obtain ⟨entry, isEntry, isSelf⟩ := List.mem_map.mp mem
    obtain ⟨p, isListed, -, same⟩ := isFor entry isEntry
    simp only [Bool.not_eq_false', List.any_eq_true, Bool.or_eq_true, beq_iff_eq]
    exact ⟨p, isListed, .inl (same.trans isSelf)⟩
  have given (p : Parameter) (mem : p ∈ layout.parameters) :
      ∃ v, Entries.get? named p.name = some v := by
    obtain ⟨f, isField, isParameter, rfl⟩ := (mem_parameters_iff p).mp mem
    exact all.each f isField isParameter
  have bound : bindArguments? layout.parameters { named := named } =
      some (layout.parameters.map fun p => .value ((Entries.get? named p.name).getD .null)) := by
    simp only [bindArguments?, notSelf, noSurplus, List.isEmpty_nil, Bool.true_or, if_true,
      Bool.false_eq_true, if_false]
    exact bindParameters_named (fun p mem => byName_of_mem_parameters mem) given
  rw [ClassTable.bindAll, bound]
  show Run.Ends ((layout.parameters.map _).mapM classes.createBound) w _ w
  generalize layout.parameters = parameters
  induction parameters with
  | nil => rfl
  | cons p rest ih =>
    rw [List.map_cons, List.mapM_cons]
    exact (Run.ends_pure _ w).bind (ih.bind rfl)

/-- The values of parameters are found under their names. -/
theorem get?_zip_parameters {f : RecordField} (isField : f ∈ layout.fields)
    (isParameter : f.isParameter = true) (value : String → Value) :
    Entries.get? ((layout.parameters.map (·.name)).zip
      (layout.parameters.map fun p => value p.name)) f.name = some (value f.name) := by
  have listed : f.parameter ∈ layout.parameters :=
    (mem_parameters_iff _).mpr ⟨f, isField, isParameter, rfl⟩
  generalize layout.parameters = parameters at listed
  induction parameters with
  | nil => simp at listed
  | cons p rest ih =>
    by_cases same : p.name = f.name
    · simp [Entries.get?, same]
    · have later : f.parameter ∈ rest := by
        rcases List.mem_cons.mp listed with rfl | later
        · exact absurd rfl same
        · exact later
      simpa [Entries.get?, same] using ih later

end RecordLayout

end ObjectMapping
