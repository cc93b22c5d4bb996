import ObjectMapping.Proofs.TypeExpr.Sameness
import ObjectMapping.TypeExpr.Unwrapping

/-!
# Laws of unwrapping

A type under all wrappers has no wrapper itself, so that it is left as it is when it
is unwrapped again.
-/

namespace ObjectMapping.TypeExpr

/-! ## One wrapper -/

theorem unwrap_annotated (inner : TypeExpr) (metadata : List Scalar) :
    (annotated inner metadata).unwrap =
      { inner.unwrap with metadata := inner.unwrap.metadata ++ metadata } :=
  rfl

theorem unwrap_qualified (q : Qualifier) (inner : TypeExpr) :
    (generic (.qualifier q) [inner]).unwrap =
      { inner.unwrap with qualifiers := q.bare :: inner.unwrap.qualifiers } := by
  cases q <;> rfl

theorem core_qualified (q : Qualifier) (inner : TypeExpr) :
    (generic (.qualifier q) [inner]).core = inner.core := by
  rw [core, unwrap_qualified, core]

/-- A form that is not known as a qualifier is no wrapper. -/
theorem unwrap_generic_of_not_qualifier {head : Head} (notQualifier : ∀ q, head ≠ .qualifier q)
    (arguments : List TypeExpr) :
    (generic head arguments).unwrap = ⟨.generic head arguments, [], []⟩ := by
  match arguments with
  | [] | _ :: _ :: _ => rfl
  | [inner] =>
    cases head with
    | qualifier q => exact absurd rfl (notQualifier q)
    | container c => cases c <;> rfl
    | listAlias | dictAlias | callable => rfl

/-! ## All wrappers -/

/-- Unwrapping twice is unwrapping once. -/
@[simp] theorem core_core : (t : TypeExpr) → t.core.core = t.core
  | .form f => by cases f <;> rfl
  | .annotated inner _ => core_core inner
  | .generic head [inner] => by
    have step : (generic head [inner]).core =
        if holds knownQualifiers head.bare then inner.core else generic head [inner] := by
      simp only [core, unwrap, unwrapWith]
      split <;> rfl
    cases isQualifier : holds knownQualifiers head.bare with
    | true =>
      rw [step, isQualifier, if_pos rfl]
      exact core_core inner
    | false => rw [step, isQualifier, if_neg Bool.false_ne_true, step, isQualifier,
        if_neg Bool.false_ne_true]
  | .generic _ [] | .generic _ (_ :: _ :: _) => rfl
  | .literal [] | .literal [_] | .literal (_ :: _ :: _) => rfl
  | .named _ | .any | .none | .ellipsis | .union _ _ | .typeVar _ | .initOnly _ _
  | .text _ _ _ | .brokenText _ _ _ | .other _ => rfl

/-- Wrappers do not count when types are compared. -/
@[simp] theorem agrees_core (left right : TypeExpr) :
    left.agrees right.core = left.agrees right := by
  rw [agrees, core_core, agrees]

/-- Every type agrees with itself. -/
theorem agrees_refl (t : TypeExpr) : t.agrees t = true :=
  same_refl t.core

end ObjectMapping.TypeExpr
