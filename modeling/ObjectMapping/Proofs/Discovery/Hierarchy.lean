import ObjectMapping.Proofs.Discovery.Evaluation
import Mathlib.Data.List.Basic

/-!
# The annotations of a hierarchy

Annotations are gathered along a line of ancestors, from the least derived class
to the most derived one. A name stands where it comes first on this way, and has
the annotation of the class that comes last. Each class contributes its
annotations evaluated, or all of them as they are written, by whether one of them
fails; which error it is that decides over the class is that of the first
annotation in order.

A failure of the whole is found by looking for the first failure of its parts, on
every level: of the annotations of a class (`failure?_resolveEntries`), of the
class (`failure?_contributedAnnotations`) and of the line
(`failure?_classAnnotations_eq`). `hierarchy_annotations` says in what order names
are gathered, with which annotations, and what is raised.
-/

namespace ObjectMapping

open Logged

/-- The error of the first annotation, in order, that cannot be evaluated. -/
def ClassInfo.firstFailure? {β : Type} (c : ClassInfo β) : Option EvaluationError :=
  c.annotations.findSome? fun entry => failure? entry.2.resolveSurface

/-- What a class has for an annotation that it declares: what that evaluates to, if
all annotations of the class can be evaluated, and else the annotation as it is
written. -/
def ClassInfo.Uses {β : Type} (c : ClassInfo β) (declared type : TypeExpr) : Prop :=
  if c.annotationsEvaluate then declared.resolveSurface = .ok type else type = declared

/-! ## One class -/

namespace ClassInfo

variable {β : Type} {c : ClassInfo β}

/-- A class has no failure exactly when all its annotations evaluate. -/
theorem firstFailure?_eq_none_iff : c.firstFailure? = none ↔ c.annotationsEvaluate = true := by
  simp only [firstFailure?, List.findSome?_eq_none_iff, failure?_eq_none_iff,
    annotationsEvaluate_iff]

/-- What is used of a class under a name is what the class uses for the annotation
that it declares there. -/
theorem exists_usedAnnotation? {name : String} {declared : TypeExpr}
    (found : Entries.get? c.annotations name = some declared) :
    ∃ type, c.Uses declared type ∧ c.usedAnnotation? name = some type := by
  rw [usedAnnotation?, found]
  cases evaluate : c.annotationsEvaluate with
  | true =>
    obtain ⟨type, isType⟩ :=
      annotationsEvaluate_iff.mp evaluate _ (Entries.mem_of_get?_eq_some found)
    exact ⟨type, by simp [Uses, evaluate, isType], by simp [isType, Except.toOption]⟩
  | false => exact ⟨declared, by simp [Uses, evaluate], rfl⟩

end ClassInfo

namespace ClassTable

variable (classes : ClassTable Code) (c : ClassId)

/-- A class fails with its first failure, if that is not tolerated. -/
theorem failure?_contributedAnnotations (a : ClassInfo Code) :
    failure? (classes.contributedAnnotations a).value =
      a.firstFailure?.filter (!·.isTolerated) := by
  rw [value_contributedAnnotations, ClassInfo.firstFailure?, ← failure?_resolveEntries]
  cases resolveEntries a.annotations with
  | ok resolved => rfl
  | error e => cases tolerated : e.isTolerated <;> simp [failure?, Option.filter, tolerated]

/-- A line fails with the first failure of its least derived class of which that is not
tolerated. -/
theorem failure?_classAnnotations_eq :
    failure? (classes.classAnnotations c).value =
      (classes.line c).reverse.findSome? fun a => a.firstFailure?.filter (!·.isTolerated) := by
  rw [failure?_classAnnotations]
  simp only [failure?_contributedAnnotations]

variable {classes c}

/-- The names are gathered from the least derived class on, each where it comes first. -/
theorem keys_classAnnotations {annotations : Entries String TypeExpr}
    (given : (classes.classAnnotations c).value = .ok annotations) :
    Entries.keys annotations =
      ((classes.line c).reverse.flatMap fun a => Entries.keys a.annotations).eraseDups := by
  obtain ⟨folded, each⟩ := classAnnotations_eq given
  rw [folded, Entries.keys_foldl_merge]
  refine congrArg List.eraseDups (List.flatMap_congr fun a mem => ?_)
  obtain ⟨contributed, isContributed⟩ := each a (List.mem_reverse.mp mem)
  rw [isContributed]
  exact keys_contributed isContributed

end ClassTable

/-- Where the annotations of every class evaluate or their first failure is tolerated, those
of the line are gathered: each name that is annotated comes once, in the order in which
names are first annotated from the least derived class on, with the annotation of the most
derived class that has one, evaluated or as it is written. What is raised is the first
failure of the least derived class of which that is not tolerated. -/
theorem hierarchy_annotations (classes : ClassTable Code) (c : ClassId)
    (distinct : ∀ a ∈ classes.line c, (Entries.keys a.annotations).Nodup) :
    ((∀ a ∈ classes.line c,
        a.annotationsEvaluate = true ∨ a.firstFailure?.any (·.isTolerated) = true) →
      ∃ gathered, (classes.classAnnotations c).outcome.1 = .ok gathered ∧
        (Entries.keys gathered).Nodup ∧
        Entries.keys gathered =
          ((classes.line c).reverse.flatMap fun a => Entries.keys a.annotations).eraseDups ∧
        ∀ name a declared,
          (classes.line c).find? (fun a => Entries.contains a.annotations name) = some a →
          Entries.get? a.annotations name = some declared →
          ∃ type, a.Uses declared type ∧ Entries.get? gathered name = some type) ∧
    ∀ e, (classes.classAnnotations c).outcome.1 = .error e ↔
      (classes.line c).reverse.findSome? (fun a => a.firstFailure?.filter (!·.isTolerated)) =
        some e := by
  have failure := classes.failure?_classAnnotations_eq c
  refine ⟨fun tolerated => ?_, fun e => ?_⟩
  · have succeeds : failure? (classes.classAnnotations c).value = none := by
      rw [failure, List.findSome?_eq_none_iff]
      intro a mem
      rcases tolerated a (List.mem_reverse.mp mem) with evaluate | isTolerated
      · rw [ClassInfo.firstFailure?_eq_none_iff.mpr evaluate]
        rfl
      · obtain ⟨e, isFailure, isTolerated⟩ := (Option.any_eq_true _ _).mp isTolerated
        simp [isFailure, Option.filter, isTolerated]
    obtain ⟨gathered, given⟩ := failure?_eq_none_iff.mp succeeds
    refine ⟨gathered, given, ClassTable.nodup_keys_classAnnotations given,
      ClassTable.keys_classAnnotations given, ?_⟩
    intro name a declared declaring found
    obtain ⟨type, uses, isUsed⟩ := ClassInfo.exists_usedAnnotation? found
    refine ⟨type, uses, ?_⟩
    rw [ClassTable.get?_classAnnotations_eq distinct given]
    exact ClassTable.usedAnnotation?_of_find? declaring isUsed
  · rw [← failure, failure?_eq_some_iff]
    rfl

/-! ## Pages of which the owner is not known -/

/-- A page is named, and a named thing has an owner of a class that is not known. A
report and a note cannot be evaluated at all. -/
def pages : ClassTable Code where
  classes := #[
    { name := ⟨.declared 0, "models", "Named", "Named"⟩
      lineage := [.declared 0, .standard .object]
      annotations := [("title", .text .free "str" (.standard .str)), ("owner", .unbound "Owner")] },
    { name := ⟨.declared 1, "models", "Page", "Page"⟩
      lineage := [.declared 1, .declared 0, .standard .object]
      annotations := [("body", .standard .str), ("title", .text .free "int" (.standard .int))] },
    { name := ⟨.declared 2, "models", "Report", "Report"⟩
      lineage := [.declared 2, .declared 1, .declared 0, .standard .object]
      annotations := [("pages", .brokenText .free "list[" .malformed)] },
    { name := ⟨.declared 3, "models", "Note", "Note"⟩
      lineage := [.declared 3, .declared 2, .declared 1, .declared 0, .standard .object]
      annotations := [("of", .brokenText .free "models.Book" .missingAttribute)] }]

/-- A page has the title that it declares itself at the place of that of a named thing,
and the owner as it is written; a note fails like a report. -/
theorem hierarchy_annotations_pages :
    (∃ gathered, (pages.classAnnotations (.declared 1)).outcome.1 = .ok gathered ∧
      Entries.keys gathered = ["title", "owner", "body"] ∧
      Entries.get? gathered "title" = some (.standard .int) ∧
      Entries.get? gathered "owner" = some (.unbound "Owner")) ∧
    (pages.classAnnotations (.declared 3)).outcome.1 = .error .malformed := by
  have page := (hierarchy_annotations pages (.declared 1) (by decide)).1
  have note := (hierarchy_annotations pages (.declared 3) (by decide)).2
  refine ⟨?_, (note .malformed).mpr rfl⟩
  obtain ⟨gathered, given, -, isKeys, values⟩ := page (by decide)
  refine ⟨gathered, given, isKeys.trans rfl, ?_, ?_⟩
  · obtain ⟨type, uses, found⟩ := values "title" (pages.info (.declared 1)) _ rfl rfl
    exact found.trans (congrArg some (Except.ok.inj uses).symm)
  · obtain ⟨type, rfl, found⟩ := values "owner" (pages.info (.declared 0)) _ rfl rfl
    exact found

end ObjectMapping
