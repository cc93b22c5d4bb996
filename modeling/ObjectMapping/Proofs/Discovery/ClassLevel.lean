import ObjectMapping.Package.Runtime
import ObjectMapping.Proofs.Discovery.ByName

/-!
# Annotations for the class itself

An annotation can say that a name is for the class itself and not for each instance, and
such names are not listed. What the annotation says is looked for in the annotation as it is
used, and a text that is used as it is written says nothing.
`name_for_class_listed_iff` tells which names for the class itself are listed all the same:
those that a text declares, next to an annotation that cannot be evaluated.
-/

namespace ObjectMapping

namespace TypeExpr

/-- The type is a form for the class itself, bare or with a type, under any annotations. -/
def isForClass : TypeExpr → Bool
  | .form .classVar | .form .final => true
  | .generic (.qualifier .classVar) [_] | .generic (.qualifier .final) [_] => true
  | .annotated inner _ => inner.isForClass
  | _ => false

/-- The annotation is a form for the class itself, or a text that stands for one. -/
def denotesForClass : TypeExpr → Bool
  | .text .free _ meaning => meaning.isForClass
  | t => t.isForClass

/-- A form for the class itself is found under its annotations. -/
theorem isClassLevel_of_isForClass {t : TypeExpr} (forClass : t.isForClass = true) :
    t.isClassLevel = true := by
  rw [isClassLevel, unwrap]
  fun_induction isForClass t with
  | case1 | case2 => rfl
  | case3 inner | case4 inner => rfl
  | case5 inner metadata ih => simpa [unwrapWith, Unwrapped.isClassLevel] using ih forClass
  | case6 => cases forClass

/-- A form for the class itself is no text. -/
theorem resolveSurface_of_isForClass {t : TypeExpr} (forClass : t.isForClass = true) :
    t.resolveSurface = .ok t := by
  fun_cases resolveSurface t with
  | case1 | case2 => cases forClass
  | case3 => rfl

/-- An annotation for the class itself is a form for it or a text. -/
theorem isForClass_or_text_of_denotesForClass {t : TypeExpr}
    (forClass : t.denotesForClass = true) :
    t.isForClass = true ∨ ∃ source meaning, t = .text .free source meaning ∧
      meaning.isForClass = true := by
  fun_cases denotesForClass t with
  | case1 source meaning => exact .inr ⟨source, meaning, rfl, forClass⟩
  | case2 => exact .inl (by simpa [denotesForClass] using forClass)

end TypeExpr

/-- A name of a class is for the class itself: no class of the line has a property under it,
and the most derived class that annotates it declares a form for the class itself or a text
for one. -/
structure ClassTable.DeclaresForClass (classes : ClassTable Code) (c : ClassId) (name : String)
    (a : ClassInfo Code) (declared : TypeExpr) : Prop where
  shown : isPublic name = true
  unhidden : classes.property? c name = none
  declaring : (classes.line c).find? (fun a => Entries.contains a.annotations name) = some a
  annotation : Entries.get? a.annotations name = some declared
  forClass : declared.denotesForClass = true

/-- Of an annotation for the class itself, a text is left for instances if it is not
evaluated, and nothing otherwise. -/
theorem ClassTable.DeclaresForClass.left_iff {classes : ClassTable Code} {c : ClassId}
    {name : String} {a : ClassInfo Code} {declared : TypeExpr}
    (declares : classes.DeclaresForClass c name a declared) (t : TypeExpr) :
    ((classes.usedAnnotation? c name).filter (!·.isClassLevel)).map TypeExpr.core = some t ↔
      t = declared ∧ declared.isForClass = false ∧ a.annotationsEvaluate = false := by
  have used : a.usedAnnotation? name =
      if a.annotationsEvaluate then declared.resolveSurface.toOption else some declared := by
    rw [ClassInfo.usedAnnotation?, declares.annotation]
    rfl
  rcases TypeExpr.isForClass_or_text_of_denotesForClass declares.forClass with
    forClass | ⟨source, meaning, rfl, forClass⟩
  · -- A form is the same whether it is evaluated or not.
    rw [TypeExpr.resolveSurface_of_isForClass forClass] at used
    have isUsed := usedAnnotation?_of_find? declares.declaring (used.trans (ite_self _))
    simp [isUsed, Option.filter, forClass, TypeExpr.isClassLevel_of_isForClass forClass]
  · cases evaluate : a.annotationsEvaluate with
    | true =>
      rw [evaluate] at used
      have isUsed := usedAnnotation?_of_find? declares.declaring used
      simp [isUsed, Option.filter, TypeExpr.isClassLevel_of_isForClass forClass]
    | false =>
      -- The text stands for itself, and nothing in it is a qualifier.
      rw [evaluate] at used
      have isUsed := usedAnnotation?_of_find? declares.declaring used
      have notClassLevel : (TypeExpr.text .free source meaning).isClassLevel = false := rfl
      have isCore : (TypeExpr.text .free source meaning).core = .text .free source meaning := rfl
      simp [isUsed, Option.filter, notClassLevel, isCore, TypeExpr.isForClass, eq_comm]

/-- A name for the class itself is listed, on both sides alike, exactly if it is declared by
a text and another annotation of the class that declares it cannot be evaluated; it is listed
with the text. Both sides are listed whenever what the classes declare can be evaluated, or
fails for a tolerated reason. -/
theorem name_for_class_listed_iff [Packages] {classes : ClassTable Code}
    (apart : classes.NamesApart) {type : TypeExpr} {c : ClassId} (isClass : type.classId? = some c)
    (resolved : Registry.standard.resolve classes type = some .plain)
    {name : String} {a : ClassInfo Code} {declared : TypeExpr}
    (declares : classes.DeclaresForClass c name a declared) :
    ((∀ a ∈ classes.line c, a.IsTolerable) →
      (∃ sources, (Registry.standard.sources classes type).outcome.1 = .ok sources) ∧
      ∃ targets, (Registry.standard.targets classes type).outcome.1 = .ok targets) ∧
    (∀ sources, (Registry.standard.sources classes type).outcome.1 = .ok sources →
      ∀ t, (name, t) ∈ sources.map (·.typed) ↔
        t = declared ∧ declared.isForClass = false ∧ a.annotationsEvaluate = false) ∧
    ∀ targets, (Registry.standard.targets classes type).outcome.1 = .ok targets →
      ∀ t, (name, t) ∈ targets.map (·.typed) ↔
        t = declared ∧ declared.isForClass = false ∧ a.annotationsEvaluate = false := by
  refine ⟨Registry.exists_plain_lists apart isClass resolved, fun sources given t => ?_,
    fun targets given t => ?_⟩
  · rw [Registry.mem_plain_sources_iff apart isClass resolved given declares.shown,
      declares.unhidden]
    exact declares.left_iff t
  · rw [Registry.mem_plain_targets_iff apart isClass resolved given declares.shown,
      declares.unhidden]
    exact declares.left_iff t

/-! ## A kind next to an owner -/

/-- A text for a text of the class itself. -/
def kindText : TypeExpr :=
  .text .free "ClassVar[str]" (.qualified .classVar (.standard .str))

/-- Two classes with a kind of their own: one where all annotations can be evaluated, and one
where that of the owner cannot. -/
def ledgers : ClassTable Code where
  classes := #[
    { name := ⟨.declared 0, "models", "Ledger", "Ledger"⟩
      lineage := [.declared 0, .standard .object]
      annotations := [("kind", kindText), ("title", .standard .str)] },
    { name := ⟨.declared 1, "models", "OwnedLedger", "OwnedLedger"⟩
      lineage := [.declared 1, .standard .object]
      annotations := [("kind", kindText), ("owner", .unbound "Owner")] }]

/-- The type of one of these classes. -/
def ledgerType (index : Nat) : TypeExpr :=
  ledgers.typeOf (.declared index)

theorem namesApart_ledgers : ledgers.NamesApart := by
  refine ClassTable.namesApart_of_declared fun c mem => ?_
  simp only [ledgers, List.mem_toArray, List.mem_cons, List.not_mem_nil, or_false] at mem
  rcases mem with rfl | rfl
  all_goals exact ⟨by simp [Entries.keys], by simp [Entries.keys], by simp, by simp, by simp⟩

/-- The kind of each class is for the class itself. -/
theorem declaresForClass_kind {index : Nat} (bound : index < 2) :
    ledgers.DeclaresForClass (.declared index) "kind" (ledgers.info (.declared index))
      kindText := by
  interval_cases index
  all_goals exact ⟨by cbv, rfl, rfl, rfl, rfl⟩

theorem sources_ledger [PackageReading] :
    (Registry.standard.sources ledgers (ledgerType 0)).outcome.1 =
      .ok (Provider.listedSources ledgers (ledgerType 0) [("title", .standard .str)]) := by
  cbv

theorem targets_ledger [Packages] :
    (Registry.standard.targets ledgers (ledgerType 0)).outcome.1 =
      .ok (Provider.listedTargets (ledgerType 0)
        (Provider.assigned [("title", .standard .str)])) := by
  cbv

theorem sources_ownedLedger [PackageReading] :
    (Registry.standard.sources ledgers (ledgerType 1)).outcome.1 =
      .ok (Provider.listedSources ledgers (ledgerType 1)
        [("kind", kindText), ("owner", .unbound "Owner")]) := by
  cbv

theorem targets_ownedLedger [Packages] :
    (Registry.standard.targets ledgers (ledgerType 1)).outcome.1 =
      .ok (Provider.listedTargets (ledgerType 1)
        (Provider.assigned [("kind", kindText), ("owner", .unbound "Owner")])) := by
  cbv

open scoped RuntimePackages

/-- Where all annotations can be evaluated, the kind is not listed with any type. -/
theorem name_for_class_listed_iff_ledger :
    (ledgers.NamesApart ∧ (ledgerType 0).classId? = some (.declared 0) ∧
      Registry.standard.resolve ledgers (ledgerType 0) = some .plain ∧
      ledgers.DeclaresForClass (.declared 0) "kind" (ledgers.info (.declared 0)) kindText) ∧
    ∀ t, ("kind", t) ∉ (Provider.listedSources ledgers (ledgerType 0)
        [("title", .standard .str)]).map (·.typed) ∧
      ("kind", t) ∉ (Provider.listedTargets (ledgerType 0)
        (Provider.assigned [("title", .standard .str)])).map (·.typed) := by
  have declares := declaresForClass_kind (show 0 < 2 by decide)
  refine ⟨⟨namesApart_ledgers, rfl, rfl, declares⟩, fun t => ?_⟩
  obtain ⟨-, read, written⟩ := name_for_class_listed_iff namesApart_ledgers
    (show (ledgerType 0).classId? = some (.declared 0) from rfl) rfl declares
  have evaluate : (ledgers.info (.declared 0)).annotationsEvaluate = true := rfl
  rw [read _ sources_ledger, written _ targets_ledger, evaluate]
  simp

/-- Next to an owner that cannot be evaluated, the kind is listed on both sides as the text
by which it is declared. -/
theorem kind_listed_ownedLedger :
    ledgers.NamesApart ∧ Registry.standard.resolve ledgers (ledgerType 1) = some .plain ∧
    ledgers.DeclaresForClass (.declared 1) "kind" (ledgers.info (.declared 1)) kindText ∧
    (∀ a ∈ ledgers.line (.declared 1), a.IsTolerable) ∧
    ∃ sources targets,
      (Registry.standard.sources ledgers (ledgerType 1)).outcome.1 = .ok sources ∧
      (Registry.standard.targets ledgers (ledgerType 1)).outcome.1 = .ok targets ∧
      ("kind", kindText) ∈ sources.map (·.typed) ∧
      ("kind", kindText) ∈ targets.map (·.typed) := by
  refine ⟨namesApart_ledgers, rfl, declaresForClass_kind (by decide), ?_, _, _,
    sources_ownedLedger, targets_ownedLedger, List.mem_cons_self, List.mem_cons_self⟩
  have isLine : ledgers.line (.declared 1) =
      [ledgers.info (.declared 1), ledgers.info (.standard .object)] := rfl
  intro a mem
  rw [isLine] at mem
  simp only [List.mem_cons, List.not_mem_nil, or_false] at mem
  rcases mem with rfl | rfl
  · exact ClassInfo.isTolerable_of_annotations rfl rfl
  · exact ClassInfo.isTolerable_of_annotations rfl rfl

end ObjectMapping
