import ObjectMapping.Proofs.Discovery.Declared

/-!
# Declared types as they are used

A declared type that cannot be evaluated may stand for itself. The annotations of a class
are used as they are written, all of them, once one of them cannot be evaluated; the result
type of a getter is used as it is written when it cannot be evaluated itself. This module
says so name by name, and that nothing but an error that is not tolerated keeps the
annotations and the result types of a class from being gathered.
-/

namespace ObjectMapping

open Logged

/-! ## One class -/

/-- All annotations that a class declares itself can be evaluated. -/
def ClassInfo.annotationsEvaluate {β : Type} (c : ClassInfo β) : Bool :=
  c.annotations.all fun entry => entry.2.resolveSurface.isOk

/-- The annotation of a class under a name, as it is used: evaluated, or as it is written if
some annotation of the class cannot be evaluated. -/
def ClassInfo.usedAnnotation? {β : Type} (c : ClassInfo β) (name : String) : Option TypeExpr :=
  (Entries.get? c.annotations name).bind fun declared =>
    if c.annotationsEvaluate then declared.resolveSurface.toOption else some declared

/-- The result type of a getter, as it is used: evaluated, or as it is written if it cannot
be evaluated. -/
def Getter.usedType {β : Type} (getter : Getter β) : TypeExpr :=
  match getter.result? with
  | some declared =>
      ((declared.resolved false >>= TypeExpr.stripped).toOption).getD declared
  | none => .any

/-- The type of what reading a property gives, as it is used. -/
def Property.usedType? {β : Type} (p : Property β) : Option TypeExpr :=
  p.getter?.map (·.usedType)

/-- What a class declares can be evaluated, or cannot for a reason that is tolerated. -/
structure ClassInfo.IsTolerable {β : Type} (c : ClassInfo β) : Prop where
  annotations : ∀ entry ∈ c.annotations, ∀ e,
    entry.2.resolveSurface = .error e → e.isTolerated = true
  results : ∀ entry ∈ ClassTable.ownPublicProperties c, ∀ getter,
    entry.2.getter? = some getter → ∀ declared, getter.result? = some declared → ∀ e,
      (declared.resolved false >>= TypeExpr.stripped) = .error e → e.isTolerated = true

/-- A text for a class that is not known. -/
def TypeExpr.unbound (name : String) : TypeExpr :=
  .brokenText .free name (.unboundName name)

section

variable {β : Type} {c : ClassInfo β}

theorem ClassInfo.annotationsEvaluate_iff :
    c.annotationsEvaluate = true ↔
      ∀ entry ∈ c.annotations, ∃ type, entry.2.resolveSurface = .ok type := by
  rw [annotationsEvaluate, List.all_eq_true]
  refine forall₂_congr fun entry _ => ?_
  cases entry.2.resolveSurface <;> simp [Except.isOk, Except.toBool]

/-- A class without public properties is tolerable if its annotations are. -/
theorem ClassInfo.isTolerable_of_annotations
    (annotations : (c.annotations.all fun entry =>
      match entry.2.resolveSurface with
      | .ok _ => true
      | .error e => e.isTolerated) = true)
    (results : ClassTable.ownPublicProperties c = []) : c.IsTolerable where
  annotations entry mem e isError := by
    have each := List.all_eq_true.mp annotations entry mem
    rwa [isError] at each
  results entry mem := by
    rw [results] at mem
    cases mem

/-- A class has an annotation that is used under the names that it annotates. -/
theorem ClassInfo.usedAnnotation?_isSome (name : String) :
    (c.usedAnnotation? name).isSome = Entries.contains c.annotations name := by
  rw [usedAnnotation?, Entries.contains]
  cases found : Entries.get? c.annotations name with
  | none => rfl
  | some declared =>
    cases evaluate : c.annotationsEvaluate with
    | false => simp
    | true =>
      obtain ⟨type, isType⟩ :=
        annotationsEvaluate_iff.mp evaluate _ (Entries.mem_of_get?_eq_some found)
      simp [isType, Except.toOption]

/-- What a class contributes is what is used of it. -/
theorem ClassTable.get?_contributedAnnotations {classes : ClassTable Code} {a : ClassInfo Code}
    {contributed : Entries String TypeExpr}
    (given : (classes.contributedAnnotations a).value = .ok contributed) (name : String) :
    Entries.get? contributed name = a.usedAnnotation? name := by
  rw [value_contributedAnnotations] at given
  have evaluate := (exists_resolveEntries_iff a.annotations).trans
    ClassInfo.annotationsEvaluate_iff.symm
  rw [ClassInfo.usedAnnotation?]
  split at given
  · next resolved isResolved =>
    obtain rfl := Except.ok.inj given
    rw [evaluate.mp ⟨resolved, isResolved⟩, get?_resolveEntries isResolved]
    rfl
  · next e isError =>
    have notEvaluate : ¬ a.annotationsEvaluate = true := by
      rw [← evaluate, isError]
      simp
    split at given
    · obtain rfl := Except.ok.inj given
      simp [notEvaluate]
    · cases given

/-- The first annotation that cannot be evaluated is an annotation of the class. -/
theorem exists_of_resolveEntries_eq_error {declared : Entries String TypeExpr}
    {e : EvaluationError} (failed : resolveEntries declared = .error e) :
    ∃ entry ∈ declared, entry.2.resolveSurface = .error e := by
  rw [← failure?_eq_some_iff, failure?_resolveEntries] at failed
  obtain ⟨entry, mem, isError⟩ := List.exists_of_findSome?_eq_some failed
  exact ⟨entry, mem, failure?_eq_some_iff.mp isError⟩

/-- A class contributes its annotations if nothing but tolerated errors is in the way. -/
theorem ClassInfo.IsTolerable.exists_contributed {classes : ClassTable Code}
    {a : ClassInfo Code} (tolerable : a.IsTolerable) :
    ∃ contributed, (classes.contributedAnnotations a).value = .ok contributed := by
  rw [ClassTable.value_contributedAnnotations]
  cases isResolved : resolveEntries a.annotations with
  | ok resolved => exact ⟨resolved, rfl⟩
  | error e =>
    obtain ⟨entry, mem, isError⟩ := exists_of_resolveEntries_eq_error isResolved
    exact ⟨a.annotations, if_pos (tolerable.annotations entry mem e isError)⟩

/-! ## Result types -/

/-- A result type that is evaluated is used. -/
theorem Getter.usedType_of_value {getter : Getter β} {type : TypeExpr}
    (given : (resultType getter).value = .ok type) : getter.usedType = type := by
  rw [value_resultType] at given
  rw [usedType]
  cases isDeclared : getter.result? with
  | none =>
    rw [isDeclared] at given
    exact Except.ok.inj given
  | some declared =>
    simp only [isDeclared, TypeExpr.asResult] at given
    show ((declared.resolved false >>= TypeExpr.stripped).toOption).getD declared = type
    cases isResult : declared.resolved false >>= TypeExpr.stripped with
    | ok result =>
      rw [isResult] at given
      exact Except.ok.inj given
    | error e =>
      simp only [isResult] at given
      split at given
      · exact Except.ok.inj given
      · cases given

/-- A property of which the result type is evaluated is read with the type that is used. -/
theorem Property.readType?_eq {p : Property β}
    (evaluates : ∀ getter, p.getter? = some getter →
      ∃ type, (resultType getter).value = .ok type) : p.readType? = p.usedType? := by
  rw [readType?, usedType?]
  cases isGetter : p.getter? with
  | none => rfl
  | some getter =>
    obtain ⟨type, isType⟩ := evaluates getter isGetter
    simp [isType, Except.toOption, getter.usedType_of_value isType]

/-- A public property has a result type if nothing but a tolerated error is in the way. -/
theorem ClassInfo.IsTolerable.exists_resultType (tolerable : c.IsTolerable) :
    ∀ entry ∈ ClassTable.ownPublicProperties c, ∀ getter, entry.2.getter? = some getter →
      ∃ type, (resultType getter).value = .ok type := by
  intro entry mem getter isGetter
  rw [value_resultType]
  cases isDeclared : getter.result? with
  | none => exact ⟨.any, rfl⟩
  | some declared =>
    show ∃ type, declared.asResult = .ok type
    rw [TypeExpr.asResult]
    cases isResult : declared.resolved false >>= TypeExpr.stripped with
    | ok result => exact ⟨result, rfl⟩
    | error e => exact ⟨declared, if_pos
          (tolerable.results entry mem getter isGetter declared isDeclared e isResult)⟩

end

/-! ## Along a line of ancestors -/

namespace ClassTable

variable (classes : ClassTable Code) (c : ClassId) (name : String)

/-- The annotation under a name that is used of the most derived class which annotates it. -/
def usedAnnotation? : Option TypeExpr :=
  (classes.line c).findSome? (·.usedAnnotation? name)

/-- The property under a name of the most derived class which has one. -/
def property? : Option (Property Code) :=
  (classes.line c).findSome? fun a => (Entries.get? a.members name).bind Member.property?

variable {classes c name}

/-- What the most derived class uses that annotates a name is what is used of the line. -/
theorem usedAnnotation?_of_find? {a : ClassInfo Code} {type : TypeExpr}
    (declaring : (classes.line c).find? (fun a => Entries.contains a.annotations name) = some a)
    (isUsed : a.usedAnnotation? name = some type) :
    classes.usedAnnotation? c name = some type := by
  refine findSome?_of_find? declaring (fun other _ absent => ?_) isUsed
  rw [← Option.isNone_iff_eq_none, ← Option.not_isSome, ClassInfo.usedAnnotation?_isSome, absent]
  rfl

/-- The gathered annotations are those that are used of the most derived classes. -/
theorem get?_classAnnotations_eq
    (distinct : ∀ a ∈ classes.line c, (Entries.keys a.annotations).Nodup)
    {annotations : Entries String TypeExpr}
    (given : (classes.classAnnotations c).value = .ok annotations) :
    Entries.get? annotations name = classes.usedAnnotation? c name := by
  rw [get?_classAnnotations distinct given, usedAnnotation?]
  refine findSome?_congr fun a mem => ?_
  obtain ⟨contributed, isContributed⟩ := (classAnnotations_eq given).2 a mem
  rw [isContributed]
  exact get?_contributedAnnotations isContributed name

/-- The public properties are those of the most derived classes. -/
theorem get?_publicProperties_eq (apart : classes.NamesApart) :
    Entries.get? (classes.publicProperties c) name =
      if isPublic name then classes.property? c name else none := by
  rw [get?_publicProperties apart, property?]
  cases isPublic name with
  | true => rfl
  | false => exact List.findSome?_eq_none_iff.mpr fun _ _ => rfl

/-- A public property of a class is a public property of some class of its line. -/
theorem exists_of_mem_publicProperties (apart : classes.NamesApart)
    {entry : String × Property Code} (mem : entry ∈ classes.publicProperties c) :
    ∃ a ∈ classes.line c, entry ∈ ownPublicProperties a := by
  obtain ⟨name, p⟩ := entry
  have found := Entries.get?_eq_some_of_mem (nodup_keys_publicProperties classes c) mem
  rw [get?_publicProperties apart] at found
  obtain ⟨a, isAncestor, isOwn⟩ := List.exists_of_findSome?_eq_some found
  obtain ⟨ancestor, -, rfl⟩ := List.mem_map.mp isAncestor
  rw [← get?_ownPublicProperties (apart ancestor)] at isOwn
  exact ⟨_, isAncestor, Entries.mem_of_get?_eq_some isOwn⟩

/-- Where all classes of the line are tolerable, all annotations are gathered. -/
theorem exists_classAnnotations (tolerable : ∀ a ∈ classes.line c, a.IsTolerable) :
    ∃ annotations, (classes.classAnnotations c).value = .ok annotations :=
  exists_classAnnotations_iff.mpr fun a mem => (tolerable a mem).exists_contributed

/-- A public property that is listed has the type that is used. -/
theorem readType?_of_resultTypes (apart : classes.NamesApart) {accepts : Property Code → Bool}
    {results : Entries String TypeExpr}
    (given : (resultTypes accepts (classes.publicProperties c)).value = .ok results)
    (shown : isPublic name = true) {p : Property Code}
    (isProperty : classes.property? c name = some p) (accepted : accepts p = true) :
    p.readType? = p.usedType? := by
  have mem : (name, p) ∈ classes.publicProperties c := by
    refine Entries.mem_of_get?_eq_some ?_
    rw [get?_publicProperties_eq apart, if_pos shown, isProperty]
  exact p.readType?_eq (exists_resultTypes_iff.mp ⟨results, given⟩ _ mem accepted)

/-- The public properties that satisfy a condition are found with the types that are used. -/
theorem get?_usedResults (apart : classes.NamesApart) {accepts : Property Code → Bool}
    {results : Entries String TypeExpr}
    (given : (resultTypes accepts (classes.publicProperties c)).value = .ok results) :
    Entries.get? results name =
      if isPublic name then
        ((classes.property? c name).filter accepts).bind Property.usedType?
      else none := by
  rw [get?_resultTypes given (nodup_keys_publicProperties classes c),
    get?_publicProperties_eq apart]
  cases shown : isPublic name with
  | false => rfl
  | true =>
    rw [if_pos rfl, if_pos rfl]
    cases isProperty : classes.property? c name with
    | none => rfl
    | some p =>
      cases accepted : accepts p with
      | false => simp [Option.filter, accepted]
      | true =>
        have isRead := readType?_of_resultTypes apart given shown isProperty accepted
        simpa [Option.filter, accepted] using isRead

/-- The public properties have result types if those of each class of the line have. -/
theorem exists_publicResults (apart : classes.NamesApart)
    (each : ∀ a ∈ classes.line c, ∀ entry ∈ ownPublicProperties a, ∀ getter,
      entry.2.getter? = some getter → ∃ type, (resultType getter).value = .ok type)
    (accepts : Property Code → Bool) :
    ∃ results, (resultTypes accepts (classes.publicProperties c)).value = .ok results := by
  refine exists_resultTypes_iff.mpr fun entry mem _ => ?_
  obtain ⟨a, isAncestor, isOwn⟩ := exists_of_mem_publicProperties apart mem
  exact each a isAncestor entry isOwn

end ClassTable

end ObjectMapping
