import ObjectMapping.Proofs.TypeExpr.Wrappers

/-!
# Agreement of declared types

Declared types agree when they are the same under their wrappers. Sameness goes through
unwrapping (`same_core`), so that agreement is an equivalence, and through what forms types:
arguments, annotations, and unions, for which only the members count that the types
contribute (`same_bracketUnion`). `Alike` says that two lists hold the same members,
whatever their order and however often they come.
-/

namespace ObjectMapping

namespace TypeExpr

/-! ## Agreement is an equivalence -/

/-- A type that is the same as one under a wrapper is under a wrapper itself. -/
theorem exists_around_of_same {wrapper : Wrapper} {inner t : TypeExpr}
    (same : (wrapper.around inner).same t = true) :
    ∃ (wrapper' : Wrapper) (inner' : TypeExpr),
      t = wrapper'.around inner' ∧ inner.same inner' = true := by
  cases wrapper with
  | annotations metadata =>
    obtain ⟨inner', metadata', rfl, isSame, -⟩ := same_annotated_iff.mp same
    exact ⟨.annotations metadata', inner', rfl, isSame⟩
  | qualifier q =>
    obtain ⟨arguments, rfl, all⟩ := same_generic_iff.mp same
    obtain ⟨inner', isSame, rfl⟩ : ∃ inner', inner.same inner' = true ∧ arguments = [inner'] := by
      simpa [List.forall₂_cons_left_iff] using all
    exact ⟨.qualifier q, inner', rfl, isSame⟩

theorem isBare_of_same {s t : TypeExpr} (same : s.same t = true) (isBare : s.isBare = true) :
    t.isBare = true := by
  rw [← Bool.not_eq_false]
  intro notBare
  obtain ⟨wrapper, inner, rfl⟩ := isBare_eq_false_iff.mp notBare
  obtain ⟨wrapper', inner', rfl, -⟩ := exists_around_of_same (same_symm same)
  rw [isBare_eq_false_iff.mpr ⟨wrapper', inner', rfl⟩] at isBare
  cases isBare

theorem eq_form_of_same {f : SpecialForm} {t : TypeExpr} (same : (form f).same t = true) :
    t = .form f := by
  cases t with
  | form f' => rw [eq_of_beq same]
  | _ => cases same

/-- A class-level form is the same as itself only. -/
theorem isClassLevelForm_of_same {s t : TypeExpr} (same : s.same t = true)
    (isForm : s.isClassLevelForm = true) : t = s := by
  rcases (isClassLevelForm_iff s).mp isForm with rfl | rfl <;> exact eq_form_of_same same

/-- Types that are the same are the same under their wrappers. -/
theorem same_core {s t : TypeExpr} (same : s.same t = true) : s.core.same t.core = true := by
  obtain ⟨stack, bare, isBare, rfl⟩ := s.exists_under
  induction stack generalizing t with
  | nil =>
    change bare.same t = true at same
    show bare.core.same t.core = true
    rw [core_of_isBare isBare, core_of_isBare (isBare_of_same same isBare)]
    by_cases isForm : bare.isClassLevelForm = true ∨ t.isClassLevelForm = true
    · obtain rfl : t = bare :=
        isForm.elim (isClassLevelForm_of_same same) fun isForm =>
          (isClassLevelForm_of_same (same_symm same) isForm).symm
      exact same_refl _
    · rw [not_or] at isForm
      rwa [if_neg isForm.1, if_neg isForm.2]
  | cons wrapper rest ih =>
    obtain ⟨wrapper', inner', rfl, isSame⟩ := exists_around_of_same same
    show (wrapper.around (bare.under rest)).core.same _ = true
    rw [core_around, core_around]
    exact ih isSame

/-- Types that are the same agree with the same types. -/
theorem agrees_congr {s t : TypeExpr} (same : s.same t = true) (u : TypeExpr) :
    s.agrees u = t.agrees u :=
  same_congr (same_core same) u.core

/-- Agreement is an equivalence of declared types. -/
theorem equivalence_agrees : Equivalence fun s t : TypeExpr => s.agrees t = true where
  refl := agrees_refl
  symm := same_symm
  trans := same_trans

/-! ## Arguments -/

/-- What a type that is compared as a whole is known by where it is an argument. -/
def Atom.asArgument : Atom → Atom
  | .none => .named StandardClass.noneType.className.id
  | .text false source => .text true source
  | atom => atom

theorem atom?_asArgument (t : TypeExpr) : t.asArgument.atom? = t.atom?.map Atom.asArgument := by
  cases t with
  | text place | brokenText place => cases place <;> rfl
  | _ => rfl

theorem atom?_underAnnotations (t : TypeExpr) :
    t.underAnnotations.atom? = t.atom?.map Atom.asArgument := by
  cases t with
  | text place | brokenText place => cases place <;> rfl
  | _ => rfl

/-- A change that concerns only types that are compared as a whole keeps types the same. -/
theorem same_of_atom?_map {change : TypeExpr → TypeExpr} {f : Atom → Atom}
    (isChange : ∀ t, (change t).atom? = t.atom?.map f)
    (others : ∀ t, t.atom? = Option.none → change t = t) {s t : TypeExpr}
    (same : s.same t = true) : (change s).same (change t) = true := by
  cases isAtom : s.atom? with
  | some atom =>
    have isAtom' := (same_iff_of_atom? isAtom).mp same
    have changed : (change s).atom? = some (f atom) := by rw [isChange, isAtom, Option.map_some]
    have changed' : (change t).atom? = some (f atom) := by rw [isChange, isAtom', Option.map_some]
    exact (same_iff_of_atom? changed).mpr changed'
  | none =>
    have isNone : t.atom? = Option.none := by
      cases isAtom' : t.atom? with
      | none => rfl
      | some atom => rw [(same_iff_of_atom? isAtom').mp (same_symm same)] at isAtom; cases isAtom
    rwa [others s isAtom, others t isNone]

theorem asArgument_of_atom?_eq_none {t : TypeExpr} (isNone : t.atom? = Option.none) :
    t.asArgument = t := by
  cases t with
  | generic | union | annotated | literal => rfl
  | _ => cases isNone

theorem underAnnotations_of_atom?_eq_none {t : TypeExpr} (isNone : t.atom? = Option.none) :
    t.underAnnotations = t := by
  cases t with
  | generic | union | annotated | literal => rfl
  | _ => cases isNone

theorem same_asArgument {s t : TypeExpr} (same : s.same t = true) :
    s.asArgument.same t.asArgument = true :=
  same_of_atom?_map atom?_asArgument (fun _ => asArgument_of_atom?_eq_none) same

theorem same_underAnnotations {s t : TypeExpr} (same : s.same t = true) :
    s.underAnnotations.same t.underAnnotations = true :=
  same_of_atom?_map atom?_underAnnotations (fun _ => underAnnotations_of_atom?_eq_none) same

/-- Annotations join those that two types have which are the same. -/
theorem same_annotate {s t : TypeExpr} (same : s.same t = true) (metadata : List Scalar) :
    (annotate s metadata).same (annotate t metadata) = true := by
  have under := same_underAnnotations same
  rw [annotate, annotate]
  split
  · next inner earlier isAnnotated =>
    rw [isAnnotated] at under
    obtain ⟨inner', earlier', isAnnotated', sameInner, agree⟩ := same_annotated_iff.mp under
    rw [isAnnotated']
    refine same_annotated_iff.mpr ⟨inner', earlier' ++ metadata, rfl, sameInner, ?_⟩
    rw [List.map_append, List.map_append, agree]
  · next notAnnotated =>
    split
    · next inner' earlier' isAnnotated' =>
      rw [isAnnotated'] at under
      obtain ⟨inner, earlier, isAnnotated, -⟩ := same_annotated_iff.mp (same_symm under)
      exact absurd isAnnotated (notAnnotated inner earlier)
    · exact same_annotated_iff.mpr ⟨t.underAnnotations, metadata, rfl, under, rfl⟩

/-! ## Unions with the same members -/

/-- The first list holds no types but those of the second. -/
def Among (first second : List TypeExpr) : Prop :=
  ∀ t ∈ first, ∃ other ∈ second, t.same other = true

namespace Among

variable {first second third : List TypeExpr}

theorem of_subset (subset : first ⊆ second) : Among first second :=
  fun t mem => ⟨t, subset mem, same_refl t⟩

theorem trans (among : Among first second) (among' : Among second third) :
    Among first third := by
  intro t mem
  obtain ⟨other, isOther, same⟩ := among t mem
  obtain ⟨last, isLast, same'⟩ := among' other isOther
  exact ⟨last, isLast, same_trans same same'⟩

theorem append_right (among : Among first second) (types : List TypeExpr) :
    Among (first ++ types) (second ++ types) := by
  intro t mem
  rcases List.mem_append.mp mem with isFirst | isLast
  · obtain ⟨other, isOther, same⟩ := among t isFirst
    exact ⟨other, List.mem_append_left _ isOther, same⟩
  · exact ⟨t, List.mem_append_right _ isLast, same_refl t⟩

end Among

/-- Two lists hold the same types, whatever their order and however often. -/
structure Alike (first second : List TypeExpr) : Prop where
  within : Among first second
  covered : Among second first

/-- Unions are the same that have the same members. -/
theorem same_union_iff_alike {spelling spelling' : UnionSpelling}
    {members members' : List TypeExpr} :
    (union spelling members).same (.union spelling' members') = true ↔
      Alike members members' := by
  constructor
  · intro same
    obtain ⟨_, _, ⟨rfl, rfl⟩, within, -⟩ := same_union_iff.mp same
    obtain ⟨_, _, ⟨rfl, rfl⟩, covered, -⟩ := same_union_iff.mp (same_symm same)
    exact ⟨within, covered⟩
  · rintro ⟨within, covered⟩
    refine same_union_iff.mpr ⟨spelling', members', rfl, within, fun t mem => ?_⟩
    obtain ⟨s, isMember, same⟩ := covered t mem
    exact ⟨s, isMember, same_symm same⟩

namespace Alike

variable {first second third : List TypeExpr}

theorem of_mem_iff (same : ∀ t, t ∈ first ↔ t ∈ second) : Alike first second :=
  ⟨.of_subset fun t => (same t).mp, .of_subset fun t => (same t).mpr⟩

theorem refl (types : List TypeExpr) : Alike types types :=
  of_mem_iff fun _ => Iff.rfl

theorem symm (alike : Alike first second) : Alike second first :=
  ⟨alike.covered, alike.within⟩

theorem trans (alike : Alike first second) (alike' : Alike second third) : Alike first third :=
  ⟨alike.within.trans alike'.within, alike'.covered.trans alike.covered⟩

theorem append_right (alike : Alike first second) (types : List TypeExpr) :
    Alike (first ++ types) (second ++ types) :=
  ⟨alike.within.append_right types, alike.covered.append_right types⟩

/-- Types that are like one type are one type, if none of them comes twice. -/
theorem eq_singleton {m : TypeExpr} (alike : Alike [m] second)
    (apart : second.Pairwise fun left right => left.same right = false) :
    ∃ m', second = [m'] ∧ m.same m' = true := by
  have isM : ∀ t ∈ second, t.same m = true := by simpa [Among] using alike.covered
  match second with
  | [] => simpa [Among] using alike.within
  | [m'] => exact ⟨m', rfl, same_symm (isM m' List.mem_cons_self)⟩
  | a :: b :: rest =>
    have same : a.same b = true :=
      same_trans (isM a (by simp)) (same_symm (isM b (by simp)))
    have different := (List.pairwise_cons.mp apart).1 b List.mem_cons_self
    rw [same] at different
    cases different

end Alike

/-- What is new is kept, and all else is the same as something that is kept. -/
theorem among_foldl_keepNew (types : List TypeExpr) (kept : List TypeExpr) :
    Among (kept ++ types) (types.foldl keepNew kept) := by
  induction types generalizing kept with
  | nil =>
    rw [List.append_nil]
    exact .of_subset fun _ => id
  | cons first rest ih =>
    intro t mem
    rw [List.foldl_cons, keepNew]
    split
    · next held =>
      obtain ⟨member, isKept, same⟩ := (holds_iff kept first).mp held
      rcases List.mem_append.mp mem with before | after
      · exact ih kept t (List.mem_append_left _ before)
      · rcases List.mem_cons.mp after with rfl | later
        · obtain ⟨other, isOther, same'⟩ := ih kept member (List.mem_append_left _ isKept)
          exact ⟨other, isOther, same_trans (same_symm same) same'⟩
        · exact ih kept t (List.mem_append_right _ later)
    · exact ih (kept ++ [first]) t (by simpa using mem)

theorem pairwise_distinct (types : List TypeExpr) :
    (distinct types).Pairwise fun left right => left.same right = false :=
  (pairwise_foldl_keepNew types .nil).1

theorem distinct_subset (types : List TypeExpr) : distinct types ⊆ types :=
  (pairwise_foldl_keepNew types .nil).2.2

/-- Leaving out what comes again leaves the same types. -/
theorem alike_distinct (types : List TypeExpr) : Alike (distinct types) types :=
  ⟨.of_subset (distinct_subset types), among_foldl_keepNew types []⟩

theorem unionOf_of_singleton {spelling : UnionSpelling} {types : List TypeExpr} {m : TypeExpr}
    (single : distinct (types.flatMap unionMembers) = [m]) : unionOf spelling types = m := by
  rw [unionOf, single]

theorem unionOf_of_several {spelling : UnionSpelling} {types : List TypeExpr}
    (several : ∀ m, distinct (types.flatMap unionMembers) ≠ [m]) :
    unionOf spelling types = .union spelling (distinct (types.flatMap unionMembers)) := by
  rw [unionOf]
  split
  · next m single => exact absurd single (several m)
  · rfl

/-- Unions of the same members are the same. -/
theorem same_unionOf (spelling spelling' : UnionSpelling) {types types' : List TypeExpr}
    (alike : Alike (types.flatMap unionMembers) (types'.flatMap unionMembers)) :
    (unionOf spelling types).same (unionOf spelling' types') = true := by
  have members : Alike (distinct (types.flatMap unionMembers))
      (distinct (types'.flatMap unionMembers)) :=
    ((alike_distinct _).trans alike).trans (alike_distinct _).symm
  by_cases single : ∃ m, distinct (types.flatMap unionMembers) = [m]
  · obtain ⟨m, single⟩ := single
    obtain ⟨m', single', same⟩ := (single ▸ members).eq_singleton (pairwise_distinct _)
    rwa [unionOf_of_singleton single, unionOf_of_singleton single']
  · have several : ∀ m, distinct (types.flatMap unionMembers) ≠ [m] := not_exists.mp single
    have several' : ∀ m, distinct (types'.flatMap unionMembers) ≠ [m] := by
      intro m isSingle
      obtain ⟨m', single', -⟩ := (isSingle ▸ members.symm).eq_singleton (pairwise_distinct _)
      exact several m' single'
    rw [unionOf_of_several several, unionOf_of_several several']
    exact same_union_iff_alike.mpr members

/-- The members that a type contributes to a union between brackets. -/
def contributed (t : TypeExpr) : List TypeExpr :=
  t.asArgument.unionMembers

theorem flatMap_contributed (types : List TypeExpr) :
    (types.map asArgument).flatMap unionMembers = types.flatMap contributed :=
  List.flatMap_map ..

/-- Unions between brackets to which the same members are contributed are the same. -/
theorem same_bracketUnion {types types' : List TypeExpr}
    (alike : Alike (types.flatMap contributed) (types'.flatMap contributed)) :
    (bracketUnion types).same (bracketUnion types') = true :=
  same_unionOf .brackets .brackets (by rwa [flatMap_contributed, flatMap_contributed])

/-- A union among the members of a union contributes its own members. -/
theorem alike_contributed_bracketUnion {types : List TypeExpr}
    (formed : ∀ t ∈ types, t.isFormed = true) :
    Alike (bracketUnion types).contributed (types.flatMap contributed) := by
  have members := alike_distinct ((types.map asArgument).flatMap unionMembers)
  rw [← flatMap_contributed]
  by_cases single : ∃ m, distinct ((types.map asArgument).flatMap unionMembers) = [m]
  · obtain ⟨m, single⟩ := single
    have isMember : m.isMember .brackets = true := by
      have mem := distinct_subset _ (single ▸ List.mem_cons_self (a := m) (l := []))
      rw [flatMap_contributed] at mem
      obtain ⟨t, isType, contributes⟩ := List.mem_flatMap.mp mem
      exact (isMember_brackets_of_mem (isFormed_asArgument (formed t isType))
        (isArgument_asArgument t) contributes).1
    rw [bracketUnion, unionOf_of_singleton single, contributed,
      asArgument_of_isArgument (isArgument_of_isMember isMember), unionMembers_of_isMember isMember]
    exact single ▸ members
  · rw [bracketUnion, unionOf_of_several (not_exists.mp single)]
    exact members

/-- Types that are the same contribute the same members. -/
theorem alike_unionMembers {s t : TypeExpr} (same : s.same t = true) :
    Alike s.unionMembers t.unionMembers := by
  cases s with
  | union spelling members =>
    obtain ⟨spelling', members', rfl, -⟩ := same_union_iff.mp same
    exact same_union_iff_alike.mp same
  | _ =>
    have single : t.unionMembers = [t] := by
      cases t with
      | union => cases same
      | _ => rfl
    rw [single]
    exact ⟨by simpa [Among, unionMembers] using same,
      by simpa [Among, unionMembers] using same_symm same⟩

/-- Types that are the same can take the place of one another in a union. -/
theorem same_bracketUnion_cons {s t : TypeExpr} (same : s.same t = true) (rest : List TypeExpr) :
    (bracketUnion (s :: rest)).same (bracketUnion (t :: rest)) = true := by
  refine same_bracketUnion ?_
  rw [List.flatMap_cons, List.flatMap_cons]
  exact (alike_unionMembers (same_asArgument same)).append_right _

/-- A union of one type is that type. -/
theorem same_bracketUnion_singleton {t : TypeExpr} (formed : t.isFormed = true)
    (isArgument : t.isArgument = true) : (bracketUnion [t]).same t = true := by
  rw [bracketUnion, List.map_singleton, asArgument_of_isArgument isArgument]
  cases t with
  | union spelling members =>
    have normal : IsNormalUnion spelling members :=
      of_decide_eq_true (everywhere_union_iff.mp formed).1
    have flat : [union spelling members].flatMap unionMembers = members := List.append_nil members
    rw [unionOf_eq flat normal.several normal.distinct]
    exact same_union_iff_alike.mpr (.refl members)
  | _ => exact same_refl _

/-- A union by a bar is the union between brackets. -/
theorem same_bar (left right : TypeExpr) :
    (bar left right).same (bracketUnion [left, right]) = true := by
  rw [bar]
  split
  · next join =>
    obtain ⟨joinsLeft, joinsRight⟩ := Bool.and_eq_true_iff.mp join
    rw [barOperand_eq_asArgument joinsLeft, barOperand_eq_asArgument joinsRight]
    exact same_unionOf .bars .brackets (.refl _)
  · exact same_refl _

end TypeExpr

end ObjectMapping
