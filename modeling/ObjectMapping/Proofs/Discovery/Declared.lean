import ObjectMapping.Proofs.Class.DistinctNames
import ObjectMapping.Proofs.Discovery.Value

/-!
# What a class and its ancestors declare

What the gathered annotations and properties of a class have under a name: what
the most derived class has there that has anything. A property of that name is
looked for by itself, so that a class between may have something else under it.
What keeps annotations from being gathered is the first failure of their parts
(`failure?_resolveEntries`, `failure?_classAnnotations`).
-/

namespace ObjectMapping

open Logged

/-! ## Failures -/

/-- The error of a computation that fails. -/
def failure? {ε α : Type} : Except ε α → Option ε
  | .ok _ => none
  | .error e => some e

section

variable {ε α β : Type}

theorem failure?_eq_some_iff {outcome : Except ε α} {e : ε} :
    failure? outcome = some e ↔ outcome = .error e := by
  cases outcome <;> simp [failure?]

theorem failure?_eq_none_iff {outcome : Except ε α} :
    failure? outcome = none ↔ ∃ a, outcome = .ok a := by
  cases outcome <;> simp [failure?]

@[simp] theorem failure?_map (f : α → β) (outcome : Except ε α) :
    failure? (outcome.map f) = failure? outcome := by
  cases outcome <;> rfl

/-- Of two computations the first failure counts. -/
theorem failure?_bind (first : Except ε α) {next : α → Except ε β} {later : Option ε}
    (same : ∀ a, failure? (next a) = later) :
    failure? (first >>= next) = (failure? first).or later := by
  cases first with
  | error e => rfl
  | ok a => exact same a

end

/-! ## Annotations -/

/-- Of the annotations of a class, the first failure counts. -/
theorem failure?_resolveEntries (declared : Entries String TypeExpr) :
    failure? (resolveEntries declared) =
      declared.findSome? fun entry => failure? entry.2.resolveSurface := by
  induction declared with
  | nil => rfl
  | cons entry rest ih =>
    obtain ⟨name, type⟩ := entry
    have later : ∀ resolved : TypeExpr, failure? (do
        return (name, resolved) :: (← resolveEntries rest)) =
          rest.findSome? fun entry => failure? entry.2.resolveSurface := by
      intro resolved
      rw [← ih]
      cases resolveEntries rest <;> rfl
    rw [resolveEntries, failure?_bind _ later, List.findSome?_cons]
    cases failure? type.resolveSurface <;> rfl

/-- Annotations resolve one after another, each under its name. -/
theorem exists_of_resolveEntries_cons {name : String} {type : TypeExpr}
    {rest resolved : Entries String TypeExpr}
    (given : resolveEntries ((name, type) :: rest) = .ok resolved) :
    ∃ first others, type.resolveSurface = .ok first ∧ resolveEntries rest = .ok others ∧
      resolved = (name, first) :: others := by
  rw [resolveEntries] at given
  cases isType : type.resolveSurface with
  | error e => simp [isType, bind, Except.bind] at given
  | ok first =>
    cases isRest : resolveEntries rest with
    | error e => simp [isType, isRest, bind, Except.bind] at given
    | ok others =>
      simp only [isType, isRest, bind, Except.bind, pure, Except.pure] at given
      exact ⟨first, others, rfl, rfl, (Except.ok.inj given).symm⟩

/-- Annotations keep their names when they are resolved. -/
theorem keys_resolveEntries {declared resolved : Entries String TypeExpr}
    (given : resolveEntries declared = .ok resolved) :
    Entries.keys resolved = Entries.keys declared := by
  induction declared generalizing resolved with
  | nil =>
    cases given
    rfl
  | cons entry rest ih =>
    obtain ⟨first, others, -, isRest, rfl⟩ := exists_of_resolveEntries_cons given
    exact congrArg (entry.1 :: ·) (ih isRest)

/-- An annotation of a class that resolves is found as what it resolves to. -/
theorem get?_resolveEntries {declared resolved : Entries String TypeExpr}
    (given : resolveEntries declared = .ok resolved) (name : String) :
    Entries.get? resolved name =
      (Entries.get? declared name).bind fun type => type.resolveSurface.toOption := by
  induction declared generalizing resolved with
  | nil =>
    cases given
    rfl
  | cons entry rest ih =>
    obtain ⟨other, type⟩ := entry
    obtain ⟨first, others, isType, isRest, rfl⟩ := exists_of_resolveEntries_cons given
    by_cases same : other = name
    · simp [Entries.get?, same, isType, Except.toOption]
    · simp [Entries.get?, same, ih isRest]

/-- The annotations of a class resolve if each of them does. -/
theorem exists_resolveEntries_iff (declared : Entries String TypeExpr) :
    (∃ resolved, resolveEntries declared = .ok resolved) ↔
      ∀ entry ∈ declared, ∃ type, entry.2.resolveSurface = .ok type := by
  simp only [← failure?_eq_none_iff, failure?_resolveEntries, List.findSome?_eq_none_iff]

/-! ## Looking along a line -/

/-- Two functions find the same in a list if they agree on its elements. -/
theorem findSome?_congr {α β : Type} {f g : α → Option β} {list : List α}
    (same : ∀ a ∈ list, f a = g a) : list.findSome? f = list.findSome? g := by
  induction list with
  | nil => rfl
  | cons a rest ih =>
    obtain ⟨first, later⟩ := List.forall_mem_cons.mp same
    rw [List.findSome?_cons, List.findSome?_cons, first, ih later]

/-- What the first element that satisfies a condition gives, when those before it give
nothing. -/
theorem findSome?_of_find? {α β : Type} {condition : α → Bool} {f : α → Option β} {list : List α}
    {a : α} {b : β} (found : list.find? condition = some a)
    (nothing : ∀ other ∈ list, condition other = false → f other = none) (gives : f a = some b) :
    list.findSome? f = some b := by
  induction list with
  | nil => cases found
  | cons first rest ih =>
    rw [List.find?_cons] at found
    cases holds : condition first with
    | true =>
      rw [holds] at found
      obtain rfl := Option.some.inj found
      rw [List.findSome?_cons, gives]
    | false =>
      rw [holds] at found
      rw [List.findSome?_cons, nothing first List.mem_cons_self holds]
      exact ih found fun other mem => nothing other (List.mem_cons_of_mem first mem)

/-! ## Merging along a line -/

/-- Maps that are merged from the last one to the first one read as the first one that
has the key. -/
theorem Entries.get?_foldl_merge {α ν : Type} (maps : α → Entries String ν) {list : List α}
    (distinct : ∀ a ∈ list, (keys (maps a)).Nodup) (key : String) :
    get? (list.reverse.foldl (fun gathered a => merge gathered (maps a)) []) key =
      list.findSome? fun a => get? (maps a) key := by
  induction list with
  | nil => rfl
  | cons a rest ih =>
    obtain ⟨distinctFirst, distinctRest⟩ := List.forall_mem_cons.mp distinct
    rw [List.reverse_cons, List.foldl_append, List.foldl_cons, List.foldl_nil,
      get?_merge _ distinctFirst, ih distinctRest, List.findSome?_cons]
    cases get? (maps a) key <;> rfl

/-- Maps that are merged one after another have each key where it comes first. -/
theorem Entries.keys_foldl_merge {α ν : Type} (maps : α → Entries String ν) (list : List α) :
    keys (list.foldl (fun gathered a => merge gathered (maps a)) []) =
      (list.flatMap fun a => keys (maps a)).eraseDups := by
  have flat := keys_foldl_alter_nil Prod.fst (fun (entry : String × ν) _ => entry.2)
    (list.flatMap maps)
  rwa [List.foldl_flatMap, List.map_flatMap] at flat

theorem Entries.nodup_keys_foldl_merge {α ν : Type} (maps : α → Entries String ν)
    {start : Entries String ν} (distinct : (keys start).Nodup) (list : List α) :
    (keys (list.foldl (fun gathered a => merge gathered (maps a)) start)).Nodup := by
  induction list generalizing start with
  | nil => exact distinct
  | cons a rest ih => exact ih (nodup_keys_merge _ distinct)

namespace ClassTable

variable {β : Type} [Inhabited β]

/-! ## Properties -/

omit [Inhabited β] in
theorem keys_ownPublicProperties_sublist (c : ClassInfo β) :
    (Entries.keys (ownPublicProperties c)).Sublist (Entries.keys c.members) := by
  rw [ownPublicProperties]
  induction c.members with
  | nil => exact .slnil
  | cons entry rest ih =>
    obtain ⟨name, m⟩ := entry
    rw [List.filterMap_cons]
    split
    · exact ih.cons name
    · next found =>
      split at found
      · obtain ⟨p, -, rfl⟩ := Option.map_eq_some_iff.mp found
        exact ih.cons_cons name
      · cases found

omit [Inhabited β] in
theorem nodup_keys_ownPublicProperties {c : ClassInfo β} (apart : c.NamesApart) :
    (Entries.keys (ownPublicProperties c)).Nodup :=
  apart.members.sublist (keys_ownPublicProperties_sublist c)

omit [Inhabited β] in
/-- Of its members, a class has the properties under public names as public properties. -/
theorem get?_ownPublicProperties {c : ClassInfo β} (apart : c.NamesApart) (name : String) :
    Entries.get? (ownPublicProperties c) name =
      if isPublic name then (Entries.get? c.members name).bind Member.property? else none := by
  have distinct := apart.members
  rw [ownPublicProperties]
  generalize c.members = members at distinct ⊢
  induction members with
  | nil => simp [Entries.get?]
  | cons entry rest ih =>
    obtain ⟨other, m⟩ := entry
    obtain ⟨notLater, distinctRest⟩ := List.nodup_cons.mp distinct
    have nothing (same : other = name) : Entries.get? rest name = none :=
      (Entries.get?_eq_none_iff rest name).mpr (same ▸ notLater)
    rw [List.filterMap_cons]
    by_cases same : other = name
    · subst same
      cases shown : isPublic other with
      | false => simpa [shown, nothing rfl] using ih distinctRest
      | true =>
        cases isProperty : m.property? with
        | none => simpa [shown, isProperty, nothing rfl, Entries.get?] using ih distinctRest
        | some p => simp [Entries.get?, isProperty]
    · cases shown : isPublic other with
      | false => simpa [shown, same, Entries.get?] using ih distinctRest
      | true =>
        cases isProperty : m.property? with
        | none => simpa [shown, isProperty, same, Entries.get?] using ih distinctRest
        | some p => simpa [shown, isProperty, same, Entries.get?] using ih distinctRest

theorem nodup_keys_publicProperties (table : ClassTable β) (c : ClassId) :
    (Entries.keys (table.publicProperties c)).Nodup :=
  Entries.nodup_keys_foldl_merge _ Entries.nodup_keys_nil _

/-- A class has the property that the most derived class has which has one. -/
theorem get?_publicProperties {table : ClassTable β} (apart : table.NamesApart) (c : ClassId)
    (name : String) :
    Entries.get? (table.publicProperties c) name =
      (table.line c).findSome? fun ancestor =>
        if isPublic name then (Entries.get? ancestor.members name).bind Member.property?
        else none := by
  rw [publicProperties, line, ← List.map_reverse, List.foldl_map,
    Entries.get?_foldl_merge (fun a => ownPublicProperties (table.info a))
      fun a _ => nodup_keys_ownPublicProperties (apart a), List.findSome?_map]
  congr 1
  funext a
  exact get?_ownPublicProperties (apart a) name

end ClassTable

/-! ## Result types -/

/-- The type of what reading a property gives, where it has a getter with a result type
that can be evaluated. -/
def Property.readType? {β : Type} (p : Property β) : Option TypeExpr :=
  p.getter?.bind fun getter => (resultType getter).value.toOption

namespace ClassTable

variable {β : Type} {accepts : Property β → Bool} {properties : Entries String (Property β)}
  {results : Entries String TypeExpr}

/-- A property that counts is listed before the rest. -/
theorem exists_of_resultTypes_cons {getter : Getter β} {name : String}
    {rest : Entries String (Property β)}
    (given : (do
      let type ← resultType getter
      return (name, type) :: (← resultTypes accepts rest)).value = .ok results) :
    ∃ type others, (resultType getter).value = .ok type ∧
      (resultTypes accepts rest).value = .ok others ∧ (name, type) :: others = results := by
  obtain ⟨type, isType, given⟩ := exists_of_value_bind given fun _ =>
    (isSteady_resultTypes accepts rest).bind fun _ => isSteady_pure _
  obtain ⟨others, isRest, same⟩ := exists_of_value_bind_pure given
  exact ⟨type, others, isType, isRest, same⟩

theorem keys_resultTypes_sublist (given : (resultTypes accepts properties).value = .ok results) :
    (Entries.keys results).Sublist (Entries.keys properties) := by
  fun_induction resultTypes accepts properties generalizing results with
  | case1 =>
    cases given
    exact .slnil
  | case2 name p rest getter isGetter accepted ih =>
    obtain ⟨type, others, -, isRest, rfl⟩ := exists_of_resultTypes_cons given
    exact (ih isRest).cons_cons name
  | case3 name p rest getter isGetter accepted ih => exact (ih given).cons name
  | case4 name p rest isGetter ih => exact (ih given).cons name

theorem nodup_keys_resultTypes (given : (resultTypes accepts properties).value = .ok results)
    (distinct : (Entries.keys properties).Nodup) : (Entries.keys results).Nodup :=
  distinct.sublist (keys_resultTypes_sublist given)

/-- The accepted properties that can be read are found with their result types. -/
theorem get?_resultTypes (given : (resultTypes accepts properties).value = .ok results)
    (distinct : (Entries.keys properties).Nodup) (name : String) :
    Entries.get? results name =
      ((Entries.get? properties name).filter accepts).bind Property.readType? := by
  fun_induction resultTypes accepts properties generalizing results with
  | case1 =>
    cases given
    rfl
  | case2 other p rest getter isGetter accepted ih =>
    obtain ⟨type, others, isType, isRest, rfl⟩ := exists_of_resultTypes_cons given
    by_cases same : other = name
    · simp [Entries.get?, same, Option.filter, accepted, Property.readType?, isGetter, isType,
        Except.toOption]
    · simpa [Entries.get?, same] using ih isRest (List.nodup_cons.mp distinct).2
  | case3 other p rest getter isGetter accepted ih =>
    obtain ⟨notLater, distinctRest⟩ := List.nodup_cons.mp distinct
    rw [ih given distinctRest]
    by_cases same : other = name
    · have nothing : Entries.get? rest name = none :=
        (Entries.get?_eq_none_iff rest name).mpr (same ▸ notLater)
      simp [Entries.get?, same, nothing, Option.filter, accepted]
    · simp [Entries.get?, same]
  | case4 other p rest isGetter ih =>
    obtain ⟨notLater, distinctRest⟩ := List.nodup_cons.mp distinct
    rw [ih given distinctRest]
    by_cases same : other = name
    · have nothing : Entries.get? rest name = none :=
        (Entries.get?_eq_none_iff rest name).mpr (same ▸ notLater)
      cases accepted : accepts p <;>
        simp [Entries.get?, same, nothing, Option.filter, accepted, Property.readType?, isGetter]
    · simp [Entries.get?, same]

/-- All properties together are found with their result types. -/
theorem get?_allResultTypes
    (given : (resultTypes (fun _ => true) properties).value = .ok results)
    (distinct : (Entries.keys properties).Nodup) (name : String) :
    Entries.get? results name = (Entries.get? properties name).bind Property.readType? := by
  rw [get?_resultTypes given distinct]
  cases Entries.get? properties name <;> rfl

/-- The accepted properties have result types if that of each of their getters can be
evaluated. -/
theorem exists_resultTypes_iff :
    (∃ results, (resultTypes accepts properties).value = .ok results) ↔
      ∀ entry ∈ properties, accepts entry.2 = true → ∀ getter, entry.2.getter? = some getter →
        ∃ type, (resultType getter).value = .ok type := by
  fun_induction resultTypes accepts properties with
  | case1 => simp
  | case2 name p rest getter isGetter accepted ih =>
    rw [List.forall_mem_cons, ← ih, value_bind _ fun _ =>
      (isSteady_resultTypes accepts rest).bind fun _ => isSteady_pure _]
    simp only [value_bind_pure]
    cases isType : (resultType getter).value with
    | error e =>
      simp only [bind, Except.bind, reduceCtorEq, exists_false, false_iff, not_and]
      intro each
      obtain ⟨type, evaluated⟩ := each accepted getter isGetter
      rw [isType] at evaluated
      cases evaluated
    | ok type =>
      cases (resultTypes accepts rest).value with
      | error e => simp [bind, Except.bind, Except.map]
      | ok others =>
        refine ⟨fun _ => ⟨?_, others, rfl⟩, fun _ => ⟨_, rfl⟩⟩
        rintro - other isOther
        obtain rfl : getter = other := Option.some.inj (isGetter.symm.trans isOther)
        exact ⟨type, isType⟩
  | case3 name p rest getter isGetter accepted ih => simp [ih, accepted]
  | case4 name p rest isGetter ih => simp [ih, isGetter]

/-- If all properties can be evaluated, so can those that satisfy a condition. -/
theorem exists_resultTypes (given : (resultTypes (fun _ => true) properties).value = .ok results)
    (accepts : Property β → Bool) :
    ∃ accepted, (resultTypes accepts properties).value = .ok accepted :=
  exists_resultTypes_iff.mpr fun entry mem _ =>
    exists_resultTypes_iff.mp ⟨results, given⟩ entry mem rfl

/-! ## Annotations along the line -/

variable {classes : ClassTable Code} {c : ClassId} {annotations : Entries String TypeExpr}

/-- A class contributes the names that it annotates. -/
theorem keys_contributed {a : ClassInfo Code} {contributed : Entries String TypeExpr}
    (given : (classes.contributedAnnotations a).value = .ok contributed) :
    Entries.keys contributed = Entries.keys a.annotations := by
  rw [value_contributedAnnotations] at given
  split at given
  · next resolved isResolved =>
    cases given
    exact keys_resolveEntries isResolved
  · split at given
    · cases given
      rfl
    · cases given

theorem NamesApart.nodup_annotations (apart : classes.NamesApart) (c : ClassId) :
    ∀ a ∈ classes.line c, (Entries.keys a.annotations).Nodup := by
  intro a mem
  obtain ⟨ancestor, -, rfl⟩ := List.mem_map.mp mem
  exact (apart ancestor).annotations

/-- Of merging what computations give, the first of their failures counts. -/
theorem failure?_foldlM_merge {ν : Type} (maps : α → Except ε (Entries String ν))
    (list : List α) (start : Entries String ν) :
    failure? (list.foldlM (fun found a => (maps a).map (Entries.merge found)) start) =
      list.findSome? fun a => failure? (maps a) := by
  induction list generalizing start with
  | nil => rfl
  | cons a rest ih =>
    rw [List.foldlM_cons, failure?_bind _ ih, failure?_map, List.findSome?_cons]
    cases failure? (maps a) <;> rfl

/-- Merging what computations give, when none of them fails. -/
theorem foldlM_merge_eq_ok {α ε ν : Type} {maps : α → Except ε (Entries String ν)}
    {list : List α} {start gathered : Entries String ν}
    (given : list.foldlM (fun found a => (maps a).map (Entries.merge found)) start =
      .ok gathered) :
    gathered =
      list.foldl (fun found a => Entries.merge found ((maps a).toOption.getD [])) start := by
  induction list generalizing start with
  | nil =>
    cases given
    rfl
  | cons a rest ih =>
    rw [List.foldlM_cons] at given
    cases isMap : maps a with
    | error e => simp [isMap, Except.map, bind, Except.bind] at given
    | ok map =>
      simp only [isMap, Except.map, bind, Except.bind] at given
      rw [ih given, List.foldl_cons, isMap]
      rfl

theorem value_classAnnotations (classes : ClassTable Code) (c : ClassId) :
    (classes.classAnnotations c).value = (classes.line c).reverse.foldlM
      (fun gathered a => (classes.contributedAnnotations a).value.map (Entries.merge gathered))
      [] := by
  rw [classAnnotations, value_foldlM fun _ a =>
    (classes.isSteady_contributedAnnotations a).bind fun _ => isSteady_pure _]
  simp only [value_bind_pure]

/-- A line fails with the failure of its least derived class that fails. -/
theorem failure?_classAnnotations (classes : ClassTable Code) (c : ClassId) :
    failure? (classes.classAnnotations c).value =
      (classes.line c).reverse.findSome? fun a =>
        failure? (classes.contributedAnnotations a).value := by
  rw [value_classAnnotations, failure?_foldlM_merge]

/-- Annotations are gathered from classes that each contribute theirs. -/
theorem exists_classAnnotations_iff :
    (∃ annotations, (classes.classAnnotations c).value = .ok annotations) ↔
      ∀ a ∈ classes.line c, ∃ contributed,
        (classes.contributedAnnotations a).value = .ok contributed := by
  simp only [← failure?_eq_none_iff, failure?_classAnnotations, List.findSome?_eq_none_iff,
    List.mem_reverse]

/-- The gathered annotations are those that the classes of the line contribute. -/
theorem classAnnotations_eq (given : (classes.classAnnotations c).value = .ok annotations) :
    annotations = (classes.line c).reverse.foldl
        (fun gathered a => Entries.merge gathered
          ((classes.contributedAnnotations a).value.toOption.getD [])) [] ∧
      ∀ a ∈ classes.line c, ∃ contributed,
        (classes.contributedAnnotations a).value = .ok contributed :=
  ⟨foldlM_merge_eq_ok (value_classAnnotations classes c ▸ given),
    exists_classAnnotations_iff.mp ⟨annotations, given⟩⟩

theorem nodup_keys_classAnnotations
    (given : (classes.classAnnotations c).value = .ok annotations) :
    (Entries.keys annotations).Nodup := by
  rw [(classAnnotations_eq given).1]
  exact Entries.nodup_keys_foldl_merge _ Entries.nodup_keys_nil _

/-- A name has the annotation that the most derived class contributes which has one. -/
theorem get?_classAnnotations
    (distinct : ∀ a ∈ classes.line c, (Entries.keys a.annotations).Nodup)
    (given : (classes.classAnnotations c).value = .ok annotations) (name : String) :
    Entries.get? annotations name = (classes.line c).findSome? fun a =>
      (classes.contributedAnnotations a).value.toOption.bind (Entries.get? · name) := by
  rw [(classAnnotations_eq given).1, Entries.get?_foldl_merge]
  · refine findSome?_congr fun a _ => ?_
    cases (classes.contributedAnnotations a).value <;> rfl
  · intro a mem
    cases contributed : (classes.contributedAnnotations a).value with
    | error e => exact List.nodup_nil
    | ok map =>
      rw [Except.toOption, Option.getD, keys_contributed contributed]
      exact distinct a mem

/-- Of the annotations, the public ones that are not for the class itself are found. -/
theorem get?_instanceEntries (distinct : (Entries.keys annotations).Nodup) (name : String) :
    Entries.get? (instanceEntries annotations) name =
      (Entries.get? annotations name).filter fun type => isPublic name && !type.isClassLevel :=
  Entries.get?_filter distinct _ name

theorem nodup_keys_instanceEntries (distinct : (Entries.keys annotations).Nodup) :
    (Entries.keys (instanceEntries annotations)).Nodup :=
  Entries.nodup_keys_filter distinct _

theorem nodup_keys_instanceAnnotations
    (given : (classes.instanceAnnotations c).value = .ok annotations) :
    (Entries.keys annotations).Nodup := by
  obtain ⟨all, isAll, rfl⟩ := exists_of_value_bind_pure given
  exact nodup_keys_instanceEntries (nodup_keys_classAnnotations isAll)

/-! ## Plain classes -/

variable {types : Entries String TypeExpr}

/-- A plain class is read by its properties, and behind them by its annotations. -/
theorem exists_of_plainSources (given : (classes.plainSources c).value = .ok types) :
    (Entries.keys types).Nodup ∧
    ∃ annotations, (classes.instanceAnnotations c).value = .ok annotations ∧
      ∀ name, Entries.get? types name =
        ((Entries.get? (classes.publicProperties c) name).bind Property.readType?).or
          (Entries.get? annotations name) := by
  obtain ⟨annotations, isAnnotations, given⟩ := exists_of_value_bind given fun _ =>
    (isSteady_resultTypes _ _).bind fun _ => isSteady_pure _
  obtain ⟨results, isResults, rfl⟩ := exists_of_value_bind_pure given
  have properties := nodup_keys_publicProperties classes c
  refine ⟨Entries.nodup_keys_merge _ (nodup_keys_instanceAnnotations isAnnotations),
    annotations, isAnnotations, fun name => ?_⟩
  rw [Entries.get?_merge _ (nodup_keys_resultTypes isResults properties),
    get?_allResultTypes isResults properties]

/-- A plain class is written by the properties that have a setter, and by the annotations
that no property hides. -/
theorem exists_of_plainTargets (given : (classes.plainTargets c).value = .ok types) :
    (Entries.keys types).Nodup ∧
    ∃ annotations, (classes.instanceAnnotations c).value = .ok annotations ∧
      ∀ name, Entries.get? types name =
        match Entries.get? (classes.publicProperties c) name with
        | some p => if p.isWritable then p.readType? else none
        | none => Entries.get? annotations name := by
  obtain ⟨annotations, isAnnotations, given⟩ := exists_of_value_bind given fun _ =>
    (isSteady_resultTypes _ _).bind fun _ => isSteady_pure _
  obtain ⟨results, isResults, rfl⟩ := exists_of_value_bind_pure given
  have properties := nodup_keys_publicProperties classes c
  have distinct := nodup_keys_instanceAnnotations isAnnotations
  refine ⟨Entries.nodup_keys_merge _ (Entries.nodup_keys_filter distinct _),
    annotations, isAnnotations, fun name => ?_⟩
  rw [Entries.get?_merge _ (nodup_keys_resultTypes isResults properties),
    get?_resultTypes isResults properties, Entries.get?_filter distinct]
  simp only [Entries.contains]
  cases Entries.get? (classes.publicProperties c) name with
  | none => cases Entries.get? annotations name <;> rfl
  | some p =>
    cases writable : p.isWritable <;> cases Entries.get? annotations name <;>
      simp [Option.filter, writable]

end ClassTable

end ObjectMapping
