import ObjectMapping.TypeExpr.Sameness
import Mathlib.Data.List.Forall2

/-!
# Laws of sameness

Sameness of types is an equivalence: every type is the same as itself, whatever it is
built from, and which of two types comes first, or what lies between them, does not
count. The laws are proved by induction on the types that a type is directly built
from (`induction_parts`), with one lemma for each shape that says what a type of this
shape is the same as. A union is compared member by member in both directions, so that
its law needs the laws of its members on either side.
-/

namespace ObjectMapping

namespace Scalar

/-- The value that a constant stands for when annotations are compared. -/
def counted : Scalar → Scalar
  | .bool value => .int (if value then 1 else 0)
  | value => value

theorem agrees_iff (left right : Scalar) :
    left.agrees right = true ↔ left.counted = right.counted := by
  cases left <;> cases right <;> simp [agrees, number?, counted]

theorem agreeAll_iff (left right : List Scalar) :
    agreeAll left right = true ↔ left.map counted = right.map counted := by
  induction left generalizing right with
  | nil => cases right <;> simp [agreeAll]
  | cons first rest ih => cases right <;> simp [agreeAll, agrees_iff, ih]

theorem sameSet_iff (left right : List Scalar) :
    sameSet left right = true ↔ ∀ value, value ∈ left ↔ value ∈ right := by
  simp only [sameSet, Bool.and_eq_true, List.all_eq_true, List.contains_iff_mem]
  exact ⟨fun both value => ⟨both.1 value, both.2 value⟩,
    fun same => ⟨fun value => (same value).mp, fun value => (same value).mpr⟩⟩

end Scalar

namespace TypeExpr

/-! ## Induction on what a type is built from -/

/-- The types that a type is directly built from, as far as they count when types are
compared. -/
def parts : TypeExpr → List TypeExpr
  | .generic _ arguments => arguments
  | .union _ members => members
  | .annotated inner _ => [inner]
  | _ => []

section

variable {motive : TypeExpr → Prop}

mutual

/-- What holds of a type if it holds of all its parts holds of every type. -/
@[elab_as_elim]
theorem induction_parts (step : ∀ t, (∀ part ∈ t.parts, motive part) → motive t) :
    (t : TypeExpr) → motive t
  | .generic _ arguments => step _ (forall_mem_of_parts step arguments)
  | .union _ members => step _ (forall_mem_of_parts step members)
  | .annotated inner _ => step _ fun _ mem =>
    List.mem_singleton.mp mem ▸ induction_parts step inner
  | .named _ | .any | .none | .ellipsis | .form _ | .literal _ | .typeVar _ | .initOnly _ _
  | .text _ _ _ | .brokenText _ _ _ | .other _ => step _ fun _ mem => nomatch mem

theorem forall_mem_of_parts (step : ∀ t, (∀ part ∈ t.parts, motive part) → motive t) :
    (types : List TypeExpr) → ∀ t ∈ types, motive t
  | [] => fun _ mem => nomatch mem
  | first :: rest =>
    List.forall_mem_cons.mpr ⟨induction_parts step first, forall_mem_of_parts step rest⟩

end

end

/-! ## Lists of types -/

theorem holds_iff (members : List TypeExpr) (t : TypeExpr) :
    holds members t = true ↔ ∃ member ∈ members, member.same t = true := by
  induction members with
  | nil => simp [holds]
  | cons first rest ih => simp [holds, ih]

theorem within_iff (first members : List TypeExpr) :
    within first members = true ↔ ∀ t ∈ first, ∃ member ∈ members, t.same member = true := by
  induction first with
  | nil => simp [within]
  | cons t rest ih => simp [within, ih]

theorem sameAll_iff (first second : List TypeExpr) :
    sameAll first second = true ↔ List.Forall₂ (fun s t => s.same t = true) first second := by
  induction first generalizing second with
  | nil => cases second <;> simp [sameAll]
  | cons s rest ih => cases second <;> simp [sameAll, ih]

/-- A relation that is transitive from the members of a list on is transitive between lists,
place by place. -/
theorem forall₂_trans_of_mem {α : Type} {R : α → α → Prop} {first second third : List α}
    (trans : ∀ a ∈ first, ∀ b c, R a b → R b c → R a c) (one : List.Forall₂ R first second)
    (other : List.Forall₂ R second third) : List.Forall₂ R first third := by
  induction one generalizing third with
  | nil => exact other
  | cons head _ ih =>
    cases other with
    | cons head' tail' =>
      exact .cons (trans _ List.mem_cons_self _ _ head head')
        (ih (fun a mem => trans a (List.mem_cons_of_mem _ mem)) tail')

/-! ## What a type of some shape is the same as -/

theorem same_generic_iff {head : Head} {arguments : List TypeExpr} {t : TypeExpr} :
    (generic head arguments).same t = true ↔ ∃ arguments', t = .generic head arguments' ∧
      List.Forall₂ (fun s s' => s.same s' = true) arguments arguments' := by
  cases t with
  | generic head' arguments' =>
    simp only [same, Bool.and_eq_true, beq_iff_eq, sameAll_iff, generic.injEq]
    constructor
    · rintro ⟨rfl, all⟩
      exact ⟨arguments', ⟨rfl, rfl⟩, all⟩
    · rintro ⟨_, ⟨rfl, rfl⟩, all⟩
      exact ⟨rfl, all⟩
  | _ => simp [same]

/-- Two unions are the same when each member of one is the same as some member of the
other. -/
theorem same_union_iff {spelling : UnionSpelling} {members : List TypeExpr} {t : TypeExpr} :
    (union spelling members).same t = true ↔
      ∃ spelling' members', t = .union spelling' members' ∧
        (∀ s ∈ members, ∃ s' ∈ members', s.same s' = true) ∧
          ∀ s' ∈ members', ∃ s ∈ members, s.same s' = true := by
  cases t with
  | union spelling' members' => simp [same, within_iff, holds_iff]
  | _ => simp [same]

theorem same_annotated_iff {inner t : TypeExpr} {metadata : List Scalar} :
    (annotated inner metadata).same t = true ↔
      ∃ inner' metadata', t = .annotated inner' metadata' ∧ inner.same inner' = true ∧
        metadata.map Scalar.counted = metadata'.map Scalar.counted := by
  cases t with
  | annotated inner' metadata' => simp [same, Scalar.agreeAll_iff]
  | _ => simp [same]

theorem same_literal_iff {values : List Scalar} {t : TypeExpr} :
    (literal values).same t = true ↔
      ∃ values', t = .literal values' ∧ ∀ value, value ∈ values ↔ value ∈ values' := by
  cases t with
  | literal values' => simp [same, Scalar.sameSet_iff]
  | _ => simp [same]

/-! ## Types that are built from no others -/

/-- What a type is known by that is compared as a whole. -/
inductive Atom where
  | named (id : ClassId)
  | any | none | ellipsis
  | form (form : SpecialForm)
  | typeVar (name : String)
  | initOnly (mark : Nat)
  | text (isReference : Bool) (source : String)
  | other (written : String)

/-- What the type is known by, unless it is a literal type or built from others. -/
def atom? : TypeExpr → Option Atom
  | .named c => some (.named c.id)
  | .any => some .any
  | .none => some .none
  | .ellipsis => some .ellipsis
  | .form f => some (.form f)
  | .typeVar name => some (.typeVar name)
  | .initOnly mark _ => some (.initOnly mark)
  | .text place source _ | .brokenText place source _ => some (.text place.isReference source)
  | .other written => some (.other written)
  | .generic _ _ | .union _ _ | .annotated _ _ | .literal _ => Option.none

/-- A type that is compared as a whole is the same as those that are known by the same. -/
theorem same_iff_of_atom? {s t : TypeExpr} {atom : Atom} (isAtom : s.atom? = some atom) :
    s.same t = true ↔ t.atom? = some atom := by
  cases s with
  | generic | union | annotated | literal => cases isAtom
  | _ =>
    obtain rfl := Option.some.inj isAtom
    cases t <;> simp [same, text?, atom?] <;> exact eq_comm

/-! ## Sameness is an equivalence -/

/-- Every type is the same as itself. -/
theorem same_refl (t : TypeExpr) : t.same t = true := by
  induction t using induction_parts with
  | step t ih =>
    cases t with
    | generic head arguments =>
      exact same_generic_iff.mpr ⟨arguments, rfl, List.forall₂_same.mpr ih⟩
    | union spelling members =>
      exact same_union_iff.mpr ⟨spelling, members, rfl, fun s mem => ⟨s, mem, ih s mem⟩,
        fun s mem => ⟨s, mem, ih s mem⟩⟩
    | annotated inner metadata =>
      exact same_annotated_iff.mpr ⟨inner, metadata, rfl, ih inner List.mem_cons_self, rfl⟩
    | literal values => exact same_literal_iff.mpr ⟨values, rfl, fun _ => Iff.rfl⟩
    | _ => exact (same_iff_of_atom? rfl).mpr rfl

/-- Which of two types comes first does not count. -/
theorem same_symm {s t : TypeExpr} (same : s.same t = true) : t.same s = true := by
  induction s using induction_parts generalizing t with
  | step s ih =>
    cases s with
    | generic head arguments =>
      obtain ⟨arguments', rfl, all⟩ := same_generic_iff.mp same
      have each := (List.forall₂_and_left _ _).mpr ⟨fun s (mem : s ∈ arguments) => mem, all⟩
      exact same_generic_iff.mpr
        ⟨arguments, rfl, (each.imp fun s t both => ih s both.1 both.2).flip⟩
    | union spelling members =>
      obtain ⟨spelling', members', rfl, within, covered⟩ := same_union_iff.mp same
      refine same_union_iff.mpr ⟨spelling, members, rfl, fun t mem => ?_, fun s mem => ?_⟩
      · obtain ⟨s, isMember, isSame⟩ := covered t mem
        exact ⟨s, isMember, ih s isMember isSame⟩
      · obtain ⟨t, isMember, isSame⟩ := within s mem
        exact ⟨t, isMember, ih s mem isSame⟩
    | annotated inner metadata =>
      obtain ⟨inner', metadata', rfl, sameInner, agree⟩ := same_annotated_iff.mp same
      exact same_annotated_iff.mpr
        ⟨inner, metadata, rfl, ih inner List.mem_cons_self sameInner, agree.symm⟩
    | literal values =>
      obtain ⟨values', rfl, sameValues⟩ := same_literal_iff.mp same
      exact same_literal_iff.mpr ⟨values, rfl, fun value => (sameValues value).symm⟩
    | _ =>
      have isAtom := (same_iff_of_atom? rfl).mp same
      exact (same_iff_of_atom? isAtom).mpr rfl

/-- What lies between two types does not count. -/
theorem same_trans {s t u : TypeExpr} (isFirst : s.same t = true)
    (isSecond : t.same u = true) : s.same u = true := by
  induction s using induction_parts generalizing t u with
  | step s ih =>
    cases s with
    | generic head arguments =>
      obtain ⟨arguments', rfl, all⟩ := same_generic_iff.mp isFirst
      obtain ⟨arguments'', rfl, all'⟩ := same_generic_iff.mp isSecond
      exact same_generic_iff.mpr
        ⟨arguments'', rfl, forall₂_trans_of_mem (fun s mem _ _ => ih s mem) all all'⟩
    | union spelling members =>
      obtain ⟨_, members', rfl, within, covered⟩ := same_union_iff.mp isFirst
      obtain ⟨spelling'', members'', rfl, within', covered'⟩ := same_union_iff.mp isSecond
      refine same_union_iff.mpr ⟨spelling'', members'', rfl, fun s mem => ?_, fun u mem => ?_⟩
      · obtain ⟨t, isMember, isSame⟩ := within s mem
        obtain ⟨u, isMember', isSame'⟩ := within' t isMember
        exact ⟨u, isMember', ih s mem isSame isSame'⟩
      · obtain ⟨t, isMember, isSame⟩ := covered' u mem
        obtain ⟨s, isMember', isSame'⟩ := covered t isMember
        exact ⟨s, isMember', ih s isMember' isSame' isSame⟩
    | annotated inner metadata =>
      obtain ⟨inner', metadata', rfl, sameInner, agree⟩ := same_annotated_iff.mp isFirst
      obtain ⟨inner'', metadata'', rfl, sameInner', agree'⟩ := same_annotated_iff.mp isSecond
      exact same_annotated_iff.mpr ⟨inner'', metadata'', rfl,
        ih inner List.mem_cons_self sameInner sameInner', agree.trans agree'⟩
    | literal values =>
      obtain ⟨values', rfl, sameValues⟩ := same_literal_iff.mp isFirst
      obtain ⟨values'', rfl, sameValues'⟩ := same_literal_iff.mp isSecond
      exact same_literal_iff.mpr
        ⟨values'', rfl, fun value => (sameValues value).trans (sameValues' value)⟩
    | _ =>
      have isAtom := (same_iff_of_atom? rfl).mp isFirst
      exact (same_iff_of_atom? rfl).mpr ((same_iff_of_atom? isAtom).mp isSecond)

/-- Types that are the same are the same as the same types. -/
theorem same_congr {s t : TypeExpr} (same : s.same t = true) (u : TypeExpr) :
    s.same u = t.same u :=
  Bool.eq_iff_iff.mpr ⟨same_trans (same_symm same), same_trans same⟩

end TypeExpr

end ObjectMapping
