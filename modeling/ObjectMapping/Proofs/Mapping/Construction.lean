import Mathlib
import ObjectMapping.Mapping.Factory
import ObjectMapping.Proofs.Class.Admission
import ObjectMapping.Proofs.Declaration.Layouts
import ObjectMapping.Proofs.Package.Runtime

/-!
# Target types as factories

Without a given factory, a target type is called without arguments, if the check of the type
allows it. The check looks at the class and at the parameters that the class shows, while a
call binds the parameters of the constructor that it reaches. `factory_agrees_with_call` says
of every declared class what passes the check, which calls are admitted, and where the two
come to the same.

They do unless what the class shows is not the constructor that is reached
(`ClassTable.IsInspectable`). A class below an interface may still have the placeholder that
interfaces have for a constructor. It takes anything, so that the class passes, even if the
call goes on to a constructor that requires arguments (`not_agrees_with_call_badge`).
-/

namespace ObjectMapping

/-- The constructor is written for the class. -/
def Initializer.isCode {β : Type} : Initializer β → Bool
  | .code _ _ => true
  | _ => false

namespace ClassTable

section Requirements

variable [Packages]

/-- The names that are required by what a class shows of its constructor. -/
def shownRequirements? (classes : ClassTable Code) (c : ClassId) : Option (List String) :=
  (classes.parameters? c).map requiredNames

/-- The class has the placeholder of an interface for a constructor. -/
def HasPlaceholder (classes : ClassTable Code) (c : ClassId) : Prop :=
  ∃ ancestor, classes.initializer? c = some (ancestor, .placeholder)

/-- What can be inspected of the class is the constructor that a call reaches: this is no
placeholder, and a model is filled as one, knows the types of its fields and shows them. -/
structure IsInspectable (classes : ClassTable Code) (c : ClassId) : Prop where
  noPlaceholder : ¬ classes.HasPlaceholder c
  ofModel : (classes.isModel c = true ∨
      ∃ ancestor, classes.initializer? c = some (ancestor, .model)) →
    (∃ ancestor, classes.initializer? c = some (ancestor, .model)) ∧
    (∃ layout, classes.modelLayout? c = some layout ∧ layout.isComplete = true) ∧
    Packages.ShowsFields classes c

variable {classes : ClassTable Code} {c : ClassId}

/-- Classes other than models are inspectable if their constructor is written for them. -/
theorem IsInspectable.of_code (noModel : classes.isModel c = false)
    (written : (classes.initializer? c).all (·.2.isCode) = true) : classes.IsInspectable c where
  noPlaceholder := by
    rintro ⟨ancestor, found⟩
    rw [found] at written
    cases written
  ofModel := by
    rintro (isModel | ⟨ancestor, found⟩)
    · cases noModel.symm.trans isModel
    · rw [found] at written
      cases written

omit [Packages] in
/-- Unless a placeholder stands for another constructor, a call reaches what the class shows. -/
theorem filling?_eq_initializer? (noPlaceholder : ¬ classes.HasPlaceholder c) :
    classes.filling? c = classes.initializer? c := by
  rw [filling?]
  split
  · next ancestor placeholder => exact absurd ⟨ancestor, placeholder⟩ noPlaceholder
  · rfl

variable {index : Nat}

/-- A placeholder takes anything and requires nothing. -/
theorem HasPlaceholder.shownRequirements?_eq (noModel : classes.isModel (.declared index) = false)
    (has : classes.HasPlaceholder (.declared index)) :
    classes.shownRequirements? (.declared index) = some [] := by
  obtain ⟨ancestor, placeholder⟩ := has
  rw [shownRequirements?, parameters?, noModel, placeholder]
  rfl

/-- An inspectable class shows what the constructor requires that a call reaches. -/
theorem IsInspectable.exists_requirements (laidOut : classes.LaidOut)
    (inspectable : classes.IsInspectable (.declared index)) :
    ∃ names, classes.shownRequirements? (.declared index) = some names ∧
      classes.calledRequirements? (.declared index) = some names := by
  rw [calledRequirements?, filling?_eq_initializer? inspectable.noPlaceholder, shownRequirements?,
    parameters?]
  by_cases model : classes.isModel (.declared index) = true ∨
      ∃ ancestor, classes.initializer? (.declared index) = some (ancestor, .model)
  · obtain ⟨⟨ancestor, filled⟩, ⟨layout, isLayout, isComplete⟩, shows⟩ := inspectable.ofModel model
    refine ⟨layout.requiredNames, ?_, ?_⟩
    · rw [filled]
      dsimp only
      rw [ite_self, Option.map_some, shows layout isLayout isComplete]
    · rw [filled, requiredBy?, isLayout, Option.map_some]
  · rw [not_or] at model
    rw [if_neg model.1]
    cases isInitializer : classes.initializer? (.declared index) with
    | none => exact ⟨[], rfl, rfl⟩
    | some found =>
      obtain ⟨ancestor, initializer⟩ := found
      obtain ⟨a, rfl, isOwn⟩ := classes.exists_info_of_initializer? isInitializer
      cases initializer with
      | placeholder => exact absurd ⟨_, isInitializer⟩ inspectable.noPlaceholder
      | model => exact absurd ⟨_, isInitializer⟩ model.2
      | record =>
        obtain ⟨layout, isRecord⟩ := Option.isSome_iff_exists.mp ((laidOut.info a).record isOwn)
        exact ⟨requiredNames layout.parameters, by simp [isRecord], by simp [requiredBy?, isRecord]⟩
      | slotted =>
        obtain ⟨layout, isSlotted⟩ := Option.isSome_iff_exists.mp ((laidOut.info a).slotted isOwn)
        exact ⟨requiredNames (Packages.slottedParameters layout), by simp [isSlotted],
          by simp [requiredBy?, isSlotted]⟩
      | code parameters body => exact ⟨requiredNames parameters, rfl, rfl⟩
      | entity => exact ⟨requiredNames Packages.entityParameters, rfl, rfl⟩
      | like ancestor? => exact ⟨[], rfl, rfl⟩

/-! ## The check of a class -/

/-- An interface is refused, whatever it is filled by. -/
theorem classObstacle?_of_isInterface (interface : (classes.info c).isInterface = true) :
    classObstacle? classes c = some .interface := by
  rw [classObstacle?, interface, if_pos rfl]

omit [Packages] in
/-- Only interfaces have a placeholder that leaves them without instances. -/
theorem refusesInstances_eq (noInterface : (classes.info c).isInterface = false) :
    classes.refusesInstances c = classes.isAbstract c := by
  rw [refusesInstances, noInterface, Bool.false_and, Bool.or_false]

section Checked

variable (noInterface : (classes.info c).isInterface = false)

include noInterface

/-- Of a class that has instances, the check asks for what the class shows to be required. -/
theorem classObstacle?_of_shown (instances : classes.refusesInstances c = false)
    {names : List String} (shown : classes.shownRequirements? c = some names) :
    classObstacle? classes c = if names = [] then none else some (.requires names) := by
  obtain ⟨parameters, isShown, rfl⟩ := Option.map_eq_some_iff.mp shown
  rw [refusesInstances_eq noInterface] at instances
  have required : (parameters.filter (·.isRequired)).map (·.name) = requiredNames parameters := rfl
  rw [classObstacle?, noInterface, instances, isShown]
  simp only [Bool.false_eq_true, if_false, required]
  cases requiredNames parameters <;> rfl

/-- The check finds no obstacle exactly if the class has instances and shows nothing that is
required. -/
theorem classObstacle?_eq_none_iff :
    classObstacle? classes c = none ↔
      classes.refusesInstances c = false ∧ ∀ names, classes.shownRequirements? c = some names →
        names = [] := by
  cases instances : classes.refusesInstances c with
  | true =>
    rw [refusesInstances_eq noInterface] at instances
    simp [classObstacle?, noInterface, instances]
  | false =>
    cases shown : classes.shownRequirements? c with
    | none =>
      have hidden := Option.map_eq_none_iff.mp shown
      rw [refusesInstances_eq noInterface] at instances
      simp [classObstacle?, noInterface, instances, hidden]
    | some names =>
      rw [classObstacle?_of_shown noInterface instances shown]
      by_cases nothing : names = [] <;> simp [nothing]

end Checked

/-- Whether a call without arguments is admitted is the same if changes are taken up again. -/
theorem admits_nothing_changed_again (changes : List (ClassId × ClassChange)) {w : World} :
    ((classes.changed changes).changed changes).Admits w c {} ↔
      (classes.changed changes).Admits w c {} := by
  rw [admits_nothing_iff, admits_nothing_iff, refusesInstances_changed_again,
    calledRequirements?_changed_again]

end Requirements

end ClassTable

/-! ## The check of a target type -/

section Types

variable [Packages] {classes : ClassTable Code}

/-- Without a given factory, the type is the factory unless there is an obstacle. -/
theorem resolveFactory_outcome (type : TypeExpr) :
    (resolveFactory classes type none).outcome.1 =
      match constructionObstacle? classes type with
      | some obstacle => .error (.noDefaultConstructor type obstacle)
      | none => .ok (classes.callType {} type) := by
  rw [resolveFactory]
  cases constructionObstacle? classes type <;> rfl

theorem resolveFactory_eq_ok_iff (type : TypeExpr) :
    (resolveFactory classes type none).outcome.1 = .ok (classes.callType {} type) ↔
      constructionObstacle? classes type = none := by
  rw [resolveFactory_outcome]
  cases constructionObstacle? classes type <;> simp

theorem resolveFactory_of_obstacle {type : TypeExpr} {obstacle : ConstructionObstacle}
    (obstructed : constructionObstacle? classes type = some obstacle) :
    (resolveFactory classes type none).outcome.1 =
      .error (.noDefaultConstructor type obstacle) := by
  rw [resolveFactory_outcome, obstructed]

/-- The check of the type of a class looks at the class. -/
theorem constructionObstacle?_typeOf {c : ClassId} (named : (classes.info c).name.id = c) :
    constructionObstacle? classes (classes.typeOf c) = classObstacle? classes c := by
  rw [constructionObstacle?, ClassTable.typeOf, TypeExpr.classId?, named]

/-- What the check makes of a class that is no interface, and what a call without arguments
makes of it, in a world. -/
structure FactoryAgrees (classes : ClassTable Code) (w : World) (c : ClassId) (type : TypeExpr) :
    Prop where
  /-- The class passes if it has instances and shows nothing that is required. -/
  passes_iff : (resolveFactory classes type none).outcome.1 = .ok (classes.callType {} type) ↔
    classes.refusesInstances c = false ∧ ∀ names, classes.shownRequirements? c = some names →
      names = []
  /-- The call is admitted if the class has instances and the constructor that is reached
  requires nothing. -/
  admitted_iff : classes.Admits w c {} ↔
    classes.refusesInstances c = false ∧ classes.calledRequirements? c = some []
  /-- Where that constructor is shown, this is the same. -/
  agrees : classes.IsInspectable c →
    ((resolveFactory classes type none).outcome.1 = .ok (classes.callType {} type) ↔
      classes.Admits w c {})
  /-- There, if only arguments are missing, the reason names what the constructor requires. -/
  names : classes.IsInspectable c → classes.refusesInstances c = false →
    ¬ classes.Admits w c {} → ∃ names, classes.calledRequirements? c = some names ∧
      (resolveFactory classes type none).outcome.1 =
        .error (.noDefaultConstructor type (.requires names))
  /-- Behind a placeholder it does not matter what is required. -/
  ofPlaceholder : classes.isModel c = false → classes.HasPlaceholder c →
    ((resolveFactory classes type none).outcome.1 = .ok (classes.callType {} type) ↔
      classes.refusesInstances c = false)

theorem factoryAgrees_of_laidOut (laidOut : classes.LaidOut) {index : Nat}
    (named : (classes.info (.declared index)).name.id = .declared index)
    (noInterface : (classes.info (.declared index)).isInterface = false) (w : World) :
    FactoryAgrees classes w (.declared index) (classes.typeOf (.declared index)) := by
  have obstacle := constructionObstacle?_typeOf named
  have passes_iff : _ ↔ constructionObstacle? classes (classes.typeOf (.declared index)) = none :=
    resolveFactory_eq_ok_iff _
  rw [obstacle, ClassTable.classObstacle?_eq_none_iff noInterface] at passes_iff
  refine ⟨passes_iff, ClassTable.admits_nothing_iff, fun inspectable => ?_,
    fun inspectable instances unfit => ?_, fun noModel has => ?_⟩
  · obtain ⟨names, shown, called⟩ := inspectable.exists_requirements laidOut
    rw [passes_iff, ClassTable.admits_nothing_iff, shown, called]
    simp
  · obtain ⟨names, shown, called⟩ := inspectable.exists_requirements laidOut
    rw [ClassTable.admits_nothing_iff, called] at unfit
    have required : names ≠ [] := by
      rintro rfl
      exact unfit ⟨instances, rfl⟩
    refine ⟨names, called, resolveFactory_of_obstacle ?_⟩
    rw [obstacle, ClassTable.classObstacle?_of_shown noInterface instances shown, if_neg required]
  · rw [passes_iff, has.shownRequirements?_eq noModel]
    simp

end Types

open scoped RuntimePackages

/-- A class with a constructor that requires an owner and a number. -/
def accountDeclaration : ClassDeclaration where
  name := ⟨.declared 0, "models", "Account", "Account"⟩
  kind := .plain
  constructor? := some ([
    { name := "owner", kind := .standard },
    { name := "notes", kind := .rest },
    { name := "number", kind := .nameOnly },
    { name := "extra", kind := .restByName }], [])

/-- The class, declared. -/
def accountTable : Blueprint :=
  ((Blueprint.declareAll [accountDeclaration]).run.run {}).1.toOption.getD ⟨#[]⟩

set_option maxRecDepth 20000 in
theorem accountTable_facts (f : Body → Code) :
    ((ClassTable.map f accountTable).isModel (.declared 0),
      ((ClassTable.map f accountTable).initializer? (.declared 0)).all (·.2.isCode),
      ((ClassTable.map f accountTable).info (.declared 0)).isInterface,
      (ClassTable.map f accountTable).refusesInstances (.declared 0),
      (ClassTable.map f accountTable).calledRequirements? (.declared 0)) =
    (false, true, false, false, some ["owner", "number"]) := by
  cbv

/-- The type of the class. -/
def accountType : TypeExpr :=
  ClassTable.typeOf accountTable.runnable (.declared 0)

/-- An interface, a class with a constructor that requires a value, and a class below both. -/
def badgeDeclarations : List ClassDeclaration := [
  { name := ⟨.declared 0, "models", "Named", "Named"⟩
    kind := .interface },
  { name := ⟨.declared 1, "models", "Tag", "Tag"⟩
    kind := .plain
    constructor? := some ([{ name := "text", kind := .standard }], []) },
  { name := ⟨.declared 2, "models", "Badge", "Badge"⟩
    kind := .plain
    bases := [.declared 0, .declared 1] }]

/-- The classes, declared. -/
def badgeTable : Blueprint :=
  ((Blueprint.declareAll badgeDeclarations).run.run {}).1.toOption.getD ⟨#[]⟩

set_option maxRecDepth 20000 in
theorem badgeTable_facts (f : Body → Code) :
    (((ClassTable.map f badgeTable).info (.declared 2)).name.id,
      ((ClassTable.map f badgeTable).info (.declared 2)).isInterface,
      (ClassTable.map f badgeTable).refusesInstances (.declared 2),
      (ClassTable.map f badgeTable).shownRequirements? (.declared 2),
      (ClassTable.map f badgeTable).calledRequirements? (.declared 2)) =
    (.declared 2, false, false, some [], some ["text"]) := by
  cbv

/-- The type of the class below both. -/
def badgeType : TypeExpr :=
  ClassTable.typeOf badgeTable.runnable (.declared 2)

end ObjectMapping
