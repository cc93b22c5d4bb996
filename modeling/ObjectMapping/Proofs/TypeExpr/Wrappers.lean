import ObjectMapping.Mapping.Property
import ObjectMapping.Proofs.TypeExpr.Formation
import ObjectMapping.Proofs.TypeExpr.Unwrapping

/-!
# Stacks of wrappers

Every declared type is a stack of wrappers around a type that has no wrapper itself
(`exists_under`). Unwrapping takes the stack off in one go, however annotations and
qualifiers alternate in it: `wrapper_stacks_come_apart` says what it gives.

A stack can be given as it stands (`under`), or be put around a type wrapper by wrapper
(`declaredUnder`). What is put directly under a wrapper may change by that, and
annotations join those that are there already; `unwrap_declaredUnder` says that unwrapping
sees nothing else of it.
-/

namespace ObjectMapping

/-- What a type can be declared under. -/
inductive Wrapper where
  | annotations (metadata : List Scalar)
  | qualifier (qualifier : Qualifier)

namespace Wrapper

/-- The wrapper around a type, which stays as it is. -/
def around : Wrapper → TypeExpr → TypeExpr
  | .annotations metadata, t => .annotated t metadata
  | .qualifier q, t => .generic (.qualifier q) [t]

/-- A type put under the wrapper. -/
def declare : Wrapper → TypeExpr → TypeExpr
  | .annotations metadata, t => .annotate t metadata
  | .qualifier q, t => .qualified q t

/-- A type as it stands once it is put directly under the wrapper. -/
def held : Wrapper → TypeExpr → TypeExpr
  | .annotations _, t => t.underAnnotations
  | .qualifier _, t => t.asArgument

/-- The qualifier that the wrapper is. -/
def qualifier? : Wrapper → Option TypeExpr
  | .annotations _ => none
  | .qualifier q => some q.bare

/-- The annotations that the wrapper carries. -/
def metadata : Wrapper → List Scalar
  | .annotations metadata => metadata
  | .qualifier _ => []

end Wrapper

namespace TypeExpr

/-- No wrapper is on the type itself. -/
def isBare : TypeExpr → Bool
  | .annotated _ _ => false
  | .generic (.qualifier _) [_] => false
  | _ => true

/-- The type under a stack of wrappers, of which the first is the outermost. -/
def under (t : TypeExpr) (stack : List Wrapper) : TypeExpr :=
  stack.foldr Wrapper.around t

/-- The type that is declared by putting wrappers around a type, the last one first. -/
def declaredUnder (t : TypeExpr) (stack : List Wrapper) : TypeExpr :=
  stack.foldr Wrapper.declare t

/-- The type as it stands once the wrappers are put around it: the innermost one decides. -/
def heldUnder (t : TypeExpr) (stack : List Wrapper) : TypeExpr :=
  match stack.getLast? with
  | some innermost => innermost.held t
  | Option.none => t

/-! ## Stacks as they stand -/

/-- A type with a wrapper on it is what the wrapper is around. -/
theorem isBare_eq_false_iff {t : TypeExpr} :
    t.isBare = false ↔ ∃ (wrapper : Wrapper) (inner : TypeExpr), t = wrapper.around inner := by
  constructor
  · intro notBare
    match t, notBare with
    | .annotated inner metadata, _ => exact ⟨.annotations metadata, inner, rfl⟩
    | .generic (.qualifier q) [inner], _ => exact ⟨.qualifier q, inner, rfl⟩
  · rintro ⟨wrapper | wrapper, inner, rfl⟩ <;> rfl

/-- Every type is a stack of wrappers around a type that has none. -/
theorem exists_under (t : TypeExpr) :
    ∃ (stack : List Wrapper) (bare : TypeExpr), bare.isBare = true ∧ t = bare.under stack := by
  induction t using induction_parts with
  | step t ih =>
    cases isBare : t.isBare with
    | true => exact ⟨[], t, isBare, rfl⟩
    | false =>
      obtain ⟨wrapper, inner, rfl⟩ := isBare_eq_false_iff.mp isBare
      have isPart : inner ∈ (wrapper.around inner).parts := by
        cases wrapper <;> exact List.mem_cons_self
      obtain ⟨stack, bare, isBareInside, rfl⟩ := ih inner isPart
      exact ⟨wrapper :: stack, bare, isBareInside, rfl⟩

/-- Unwrapping takes the outermost wrapper off. -/
theorem unwrap_around (wrapper : Wrapper) (t : TypeExpr) :
    (wrapper.around t).unwrap = {
      core := t.unwrap.core
      qualifiers := wrapper.qualifier?.toList ++ t.unwrap.qualifiers
      metadata := t.unwrap.metadata ++ wrapper.metadata } := by
  cases wrapper with
  | annotations metadata => rfl
  | qualifier q =>
    rw [Wrapper.around, unwrap_qualified]
    simp [Wrapper.qualifier?, Wrapper.metadata]

/-- A type without wrappers is left as it is, but for a class-level form, which counts as
a qualifier of the type of all values. -/
theorem unwrap_of_isBare {t : TypeExpr} (isBare : t.isBare = true) :
    t.unwrap = if t.isClassLevelForm then ⟨.any, [t], []⟩ else ⟨t, [], []⟩ := by
  match t, isBare with
  | .generic (.qualifier _) [], _ | .generic (.qualifier _) (_ :: _ :: _), _ => rfl
  | .generic (.container c) arguments, _ =>
    exact unwrap_generic_of_not_qualifier (by simp) arguments
  | .generic .listAlias arguments, _ | .generic .dictAlias arguments, _
  | .generic .callable arguments, _ =>
    exact unwrap_generic_of_not_qualifier (by simp) arguments
  | .form f, _ => cases f <;> rfl
  | .literal [], _ | .literal [_], _ | .literal (_ :: _ :: _), _ => rfl
  | .named _, _ | .any, _ | .none, _ | .ellipsis, _ | .union _ _, _ | .typeVar _, _
  | .initOnly _ _, _ | .text _ _ _, _ | .brokenText _ _ _, _ | .other _, _ => rfl

/-- Unwrapping takes a whole stack off: its qualifiers come from the outermost inwards, and
its annotations from the innermost outwards. -/
theorem unwrap_under (t : TypeExpr) (stack : List Wrapper) :
    (t.under stack).unwrap = {
      core := t.unwrap.core
      qualifiers := stack.filterMap Wrapper.qualifier? ++ t.unwrap.qualifiers
      metadata := t.unwrap.metadata ++ stack.reverse.flatMap Wrapper.metadata } := by
  induction stack with
  | nil => simp [under]
  | cons wrapper rest ih =>
    show (wrapper.around (t.under rest)).unwrap = _
    rw [unwrap_around, ih, List.filterMap_cons, List.reverse_cons, List.flatMap_append]
    cases wrapper <;> simp [Wrapper.qualifier?, Wrapper.metadata]

theorem core_around (wrapper : Wrapper) (t : TypeExpr) : (wrapper.around t).core = t.core := by
  rw [core, unwrap_around, core]

theorem core_of_isBare {t : TypeExpr} (isBare : t.isBare = true) :
    t.core = if t.isClassLevelForm then .any else t := by
  rw [core, unwrap_of_isBare isBare]
  split <;> rfl

/-! ## Stacks that are put around a type -/

/-- What a wrapper was put around can stand for itself under the next one. -/
theorem isArgument_declare (wrapper : Wrapper) (t : TypeExpr) :
    (wrapper.declare t).isArgument = true := by
  cases wrapper with
  | annotations metadata =>
    rw [Wrapper.declare, annotate]
    split <;> rfl
  | qualifier q => rfl

/-- What stands for itself is held by wrappers as it is. -/
theorem held_of_isArgument (wrapper : Wrapper) {t : TypeExpr} (isArgument : t.isArgument = true) :
    wrapper.held t = t := by
  cases wrapper with
  | qualifier q => exact asArgument_of_isArgument isArgument
  | annotations metadata =>
    cases t with
    | text place | brokenText place =>
      cases place with
      | free => cases isArgument
      | argument | annotated => rfl
    | none => cases isArgument
    | _ => rfl

theorem heldUnder_of_isArgument (stack : List Wrapper) {t : TypeExpr}
    (isArgument : t.isArgument = true) : t.heldUnder stack = t := by
  rw [heldUnder]
  split
  · exact held_of_isArgument _ isArgument
  · rfl

/-- Unwrapping sees a wrapper around what it holds, also where annotations were joined. -/
theorem unwrap_declare (wrapper : Wrapper) (t : TypeExpr) :
    (wrapper.declare t).unwrap = (wrapper.around (wrapper.held t)).unwrap := by
  cases wrapper with
  | qualifier q => rfl
  | annotations metadata =>
    rw [Wrapper.declare, annotate, Wrapper.held]
    split
    · next innermost earlier isAnnotated =>
      rw [isAnnotated, Wrapper.around, unwrap_annotated, unwrap_annotated, unwrap_annotated,
        List.append_assoc]
    · rfl

/-- Unwrapping sees the stack that was put around a type as it stands around the type that
the innermost wrapper holds. -/
theorem unwrap_declaredUnder (t : TypeExpr) (stack : List Wrapper) :
    (t.declaredUnder stack).unwrap = ((t.heldUnder stack).under stack).unwrap := by
  induction stack with
  | nil => rfl
  | cons wrapper rest ih =>
    show (wrapper.declare (t.declaredUnder rest)).unwrap = _
    rw [unwrap_declare]
    cases rest with
    | nil => rfl
    | cons next inner =>
      have stays : wrapper.held (t.declaredUnder (next :: inner)) =
          t.declaredUnder (next :: inner) :=
        held_of_isArgument wrapper (isArgument_declare next (t.declaredUnder inner))
      rw [stays, unwrap_around, ih]
      exact (unwrap_around wrapper ((t.heldUnder (next :: inner)).under (next :: inner))).symm

/-- A type that stands for itself is what is under all wrappers that are put around it. -/
theorem core_declaredUnder (stack : List Wrapper) {t : TypeExpr}
    (isArgument : t.isArgument = true) : (t.declaredUnder stack).core = t.core := by
  rw [core, unwrap_declaredUnder, heldUnder_of_isArgument stack isArgument, unwrap_under, core]

/-- A type without wrappers has none once it is held by one. -/
theorem isBare_heldUnder (stack : List Wrapper) {t : TypeExpr} (isBare : t.isBare = true) :
    (t.heldUnder stack).isBare = true := by
  rw [heldUnder]
  split
  · next wrapper _ =>
    cases t with
    | text place | brokenText place => cases wrapper <;> cases place <;> rfl
    | _ => cases wrapper <;> exact isBare
  · exact isBare

end TypeExpr

/-! ## What a stack comes apart to -/

theorem TypeExpr.isClassLevelForm_iff (t : TypeExpr) :
    t.isClassLevelForm = true ↔ t = Qualifier.classVar.bare ∨ t = Qualifier.final.bare := by
  cases t with
  | form f => cases f <;> simp [isClassLevelForm, Qualifier.bare]
  | _ => simp [isClassLevelForm, Qualifier.bare]

/-- The parts of a stack of wrappers around a type that has none. -/
structure Unwrapped.IsOf (parts : Unwrapped) (stack : List Wrapper) (bare : TypeExpr) : Prop where
  /-- The type under the stack; a class-level form stands for the type of all values. -/
  core : parts.core = if bare.isClassLevelForm then .any else bare
  /-- The qualifiers from the outermost inwards, and behind them a bare class-level form. -/
  qualifiers : parts.qualifiers =
    stack.filterMap Wrapper.qualifier? ++ if bare.isClassLevelForm then [bare] else []
  /-- The annotations from the innermost outwards. -/
  metadata : parts.metadata = stack.reverse.flatMap Wrapper.metadata
  /-- A class-level form among the qualifiers makes the whole class-level. -/
  classLevel : parts.isClassLevel = true ↔
    Qualifier.classVar.bare ∈ parts.qualifiers ∨ Qualifier.final.bare ∈ parts.qualifiers

theorem Unwrapped.isClassLevel_iff (parts : Unwrapped) :
    parts.isClassLevel = true ↔
      Qualifier.classVar.bare ∈ parts.qualifiers ∨ Qualifier.final.bare ∈ parts.qualifiers := by
  simp [isClassLevel, List.any_eq_true, TypeExpr.isClassLevelForm_iff, and_or_left, exists_or]

theorem TypeExpr.isOf_unwrap_under (stack : List Wrapper) {bare : TypeExpr}
    (isBare : bare.isBare = true) : (bare.under stack).unwrap.IsOf stack bare := by
  have parts := bare.unwrap_under stack
  rw [unwrap_of_isBare isBare] at parts
  refine ⟨?_, ?_, ?_, Unwrapped.isClassLevel_iff _⟩ <;> rw [parts] <;> split <;> simp

/-- Unwrapping takes every stack of wrappers off the type under it, and every declared type
is such a stack. What is left has no wrapper any more, so that the types of properties are
left as they are when they are unwrapped again. -/
theorem wrapper_stacks_come_apart :
    (∀ (stack : List Wrapper) (bare : TypeExpr), bare.isBare = true →
      (bare.under stack).unwrap.IsOf stack bare ∧
      (bare.declaredUnder stack).unwrap.IsOf stack (bare.heldUnder stack) ∧
      (bare.isArgument = true → bare.heldUnder stack = bare)) ∧
    (∀ t : TypeExpr, ∃ (stack : List Wrapper) (bare : TypeExpr),
      bare.isBare = true ∧ t = bare.under stack) ∧
    (∀ t : TypeExpr, t.core.core = t.core) ∧
    (∀ identity owner name declared reader,
      (SourceProperty.declare identity owner name declared reader).type.core =
        (SourceProperty.declare identity owner name declared reader).type) ∧
    ∀ identity owner name declared mode, (∀ text write, mode ≠ .custom text write) →
      (TargetProperty.declare identity owner name declared mode).type.core =
        (TargetProperty.declare identity owner name declared mode).type := by
  refine ⟨fun stack bare isBare => ⟨?_, ?_, ?_⟩, TypeExpr.exists_under, TypeExpr.core_core,
    fun _ _ _ declared _ => declared.core_core, ?_⟩
  · exact TypeExpr.isOf_unwrap_under stack isBare
  · rw [TypeExpr.unwrap_declaredUnder]
    exact TypeExpr.isOf_unwrap_under stack (TypeExpr.isBare_heldUnder stack isBare)
  · exact TypeExpr.heldUnder_of_isArgument stack
  · intro identity owner name declared mode notCustom
    cases mode with
    | assignment | replacement => exact declared.core_core
    | custom text write => exact absurd rfl (notCustom text write)

/-- Annotations around a class-level qualifier around annotations. -/
def labelledStack : List Wrapper :=
  [.annotations [.str "b", .int 2], .qualifier .classVar, .annotations [.str "a"]]

/-- Under the three wrappers is the type of numbers, for the class itself. A property that
is declared so has the type of numbers. -/
theorem wrapper_stacks_come_apart_labelled :
    (TypeExpr.standard .int).isBare = true ∧
    ((TypeExpr.standard .int).under labelledStack).unwrap =
      ⟨.standard .int, [.form .classVar], [.str "a", .str "b", .int 2]⟩ ∧
    ((TypeExpr.standard .int).under labelledStack).unwrap.isClassLevel = true ∧
    (TargetProperty.declare 0 .any "count" ((TypeExpr.standard .int).under labelledStack)
      .assignment).type.core = .standard .int := by
  have parts := (wrapper_stacks_come_apart.1 labelledStack (.standard .int) rfl).1
  refine ⟨rfl, ?_, ?_, ?_⟩
  · exact congr (congr (congrArg Unwrapped.mk parts.core) parts.qualifiers) parts.metadata
  · rw [parts.classLevel, parts.qualifiers]
    exact .inl List.mem_cons_self
  · have kept := wrapper_stacks_come_apart.2.2.2.2 0 .any "count"
      ((TypeExpr.standard .int).under labelledStack) .assignment (by simp)
    exact kept.trans parts.core

end ObjectMapping
