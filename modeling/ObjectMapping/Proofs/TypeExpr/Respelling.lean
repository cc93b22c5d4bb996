import ObjectMapping.Proofs.TypeExpr.Agreement
import ObjectMapping.Proofs.TypeExpr.Resolution

/-!
# Types that are written in different ways

A union can be written in many ways: its members in any order, some of them twice, unions
among them, between brackets, as an optional type or with bars. `Spelling.Respells` says
how one way of writing a type comes from another, at any place in the type, and
`agreement_of_declared_types` that types agree with the same types however they are written,
and whatever wrappers they are declared under.

The result stops at texts, which are not compared as the types that they stand for: a union
in a text is not the same when it is written in another way
(`not_agrees_of_respelled_inside`). A parameter of a constructor that is not stored is a type
of its own wherever it is written, so that a way of writing takes it as it is.
-/

namespace ObjectMapping

/-- How a type is written. -/
inductive Spelling where
  /-- A type in normal form, as it is. -/
  | plain (t : TypeExpr) (formed : t.isFormed = true)
  | container (container : Container) (arguments : List Spelling)
  | applied (head : Head) (arguments : List Spelling)
  | annotated (inner : Spelling) (metadata : List Scalar)
  /-- A union between brackets. -/
  | union (first : Spelling) (rest : List Spelling)
  | optional (member : Spelling)
  /-- A union of two types joined by a bar. -/
  | bar (left right : Spelling)
  /-- A text that stands for a type. -/
  | text (source : String) (meaning : Spelling)

namespace Spelling

mutual

/-- The type that is written. -/
def type : Spelling → TypeExpr
  | .plain t _ => t
  | .container c arguments => .container c (types arguments)
  | .applied head arguments => .applied head (types arguments)
  | .annotated inner metadata => .annotate inner.type metadata
  | .union first rest => .bracketUnion (first.type :: types rest)
  | .optional member => .optional member.type
  | .bar left right => .bar left.type right.type
  | .text source meaning => .text .free source meaning.type
termination_by structural s => s

/-- The types that are written. -/
def types : List Spelling → List TypeExpr
  | [] => []
  | first :: rest => first.type :: types rest

end

/-- Null in the place of a type. -/
def null : Spelling :=
  .plain .none rfl

mutual

/-- No text stands in the type as it is written. -/
def isTextless : Spelling → Bool
  | .plain t _ => t.everywhere TypeExpr.isTextless
  | .container _ arguments | .applied _ arguments => areTextless arguments
  | .annotated inner _ => inner.isTextless
  | .union first rest => first.isTextless && areTextless rest
  | .optional member => member.isTextless
  | .bar left right => left.isTextless && right.isTextless
  | .text _ _ => false
termination_by structural s => s

/-- No text stands in the types as they are written. -/
def areTextless : List Spelling → Bool
  | [] => true
  | first :: rest => first.isTextless && areTextless rest

end

theorem areTextless_eq_all (spellings : List Spelling) :
    areTextless spellings = spellings.all isTextless := by
  induction spellings with
  | nil => rfl
  | cons first rest ih => rw [areTextless, ih, List.all_cons]

theorem types_eq_map (spellings : List Spelling) : types spellings = spellings.map type := by
  induction spellings with
  | nil => rfl
  | cons first rest ih => rw [types, ih, List.map_cons]

mutual

/-- Every type that is written is in normal form. -/
theorem isFormed_type : (s : Spelling) → s.type.isFormed = true
  | .plain _ formed => formed
  | .container c arguments => TypeExpr.isFormed_container c (isFormed_of_mem_types arguments)
  | .applied head arguments => TypeExpr.isFormed_applied head (isFormed_of_mem_types arguments)
  | .annotated inner metadata => TypeExpr.isFormed_annotate (isFormed_type inner) metadata
  | .union first rest => TypeExpr.isFormed_bracketUnion (List.cons_ne_nil _ _) <|
    List.forall_mem_cons.mpr ⟨isFormed_type first, isFormed_of_mem_types rest⟩
  | .optional member => TypeExpr.isFormed_bracketUnion (List.cons_ne_nil _ _) <|
    List.forall_mem_cons.mpr ⟨isFormed_type member, by simp; rfl⟩
  | .bar left right => TypeExpr.isFormed_bar (isFormed_type left) (isFormed_type right)
  | .text _ meaning => isFormed_type meaning

theorem isFormed_of_mem_types :
    (spellings : List Spelling) → ∀ t ∈ types spellings, t.isFormed = true
  | [] => fun _ mem => nomatch mem
  | first :: rest =>
    List.forall_mem_cons.mpr ⟨isFormed_type first, isFormed_of_mem_types rest⟩

end

/-! ## Ways to write a union -/

/-- One way to write a type comes from another: some unions in it are written in another
way. -/
inductive Respells : Spelling → Spelling → Prop where
  | refl (s : Spelling) : Respells s s
  | symm {s s'} (respells : Respells s s') : Respells s' s
  | trans {s s' s''} (first : Respells s s') (second : Respells s' s'') : Respells s s''
  /-- The members stand in another order. -/
  | order {first rest first' rest'} (perm : (first :: rest).Perm (first' :: rest')) :
      Respells (.union first rest) (.union first' rest')
  /-- A member is written again. -/
  | again {s first rest} (mem : s ∈ first :: rest) :
      Respells (.union s (first :: rest)) (.union first rest)
  /-- A union among the members has its members there itself. -/
  | nested (first inner rest) :
      Respells (.union (.union first inner) rest) (.union first (inner ++ rest))
  /-- A union of one type is that type, unless it stands for another one as a member. -/
  | alone {s} (isArgument : s.type.isArgument = true) : Respells (.union s []) s
  | optional (s) : Respells (.optional s) (.union s [null])
  | bar (left right) : Respells (.bar left right) (.union left [right])
  -- In a type, one place after the other. A member of a union comes first in some order.
  | inContainer {s s'} (c before after) (respells : Respells s s') :
      Respells (.container c (before ++ s :: after)) (.container c (before ++ s' :: after))
  | inApplied {s s'} (head before after) (respells : Respells s s') :
      Respells (.applied head (before ++ s :: after)) (.applied head (before ++ s' :: after))
  | inAnnotated {s s'} (metadata) (respells : Respells s s') :
      Respells (.annotated s metadata) (.annotated s' metadata)
  | inUnion {s s'} (rest) (respells : Respells s s') :
      Respells (.union s rest) (.union s' rest)
  /-- What a text stands for is written in another way, and with it the text itself. -/
  | inText {s s'} (source source') (respells : Respells s s') :
      Respells (.text source s) (.text source' s')

/-- The same types at all places but one, and there types that are the same. -/
theorem forall₂_same_types {s s' : Spelling} (same : s.type.same s'.type = true)
    (before after : List Spelling) :
    List.Forall₂ (fun t t' : TypeExpr => t.same t' = true) (types (before ++ s :: after))
      (types (before ++ s' :: after)) := by
  induction before with
  | nil => exact .cons same (List.forall₂_same.mpr fun t _ => TypeExpr.same_refl t)
  | cons first rest ih => exact .cons (TypeExpr.same_refl first.type) ih

/-- Unions are the same that are written with the same members in another order or more
often. -/
theorem same_union_of_mem_iff {first first' : Spelling} {rest rest' : List Spelling}
    (same : ∀ s, s ∈ first :: rest ↔ s ∈ first' :: rest') :
    (union first rest).type.same (union first' rest').type = true := by
  refine TypeExpr.same_bracketUnion (.of_mem_iff fun t => ?_)
  rw [← types, ← types, types_eq_map, types_eq_map]
  simp only [List.mem_flatMap, List.mem_map, exists_exists_and_eq_and, same]

/-- Another way to write a type brings no text into it and takes none away. -/
theorem Respells.isTextless_eq {s s' : Spelling} (respells : s.Respells s') :
    s.isTextless = s'.isTextless := by
  induction respells with
  | refl | alone | bar => simp [isTextless, areTextless]
  | optional =>
    have textless : null.isTextless = true := rfl
    simp [isTextless, areTextless, textless]
  | symm _ ih => exact ih.symm
  | trans _ _ ih ih' => exact ih.trans ih'
  | order perm =>
    simpa only [isTextless, areTextless_eq_all, List.all_cons] using perm.all_eq
  | again mem =>
    rw [isTextless, isTextless, ← areTextless]
    exact Bool.and_eq_right_iff_imp.mpr fun textless =>
      List.all_eq_true.mp (areTextless_eq_all _ ▸ textless) _ mem
  | nested => simp [isTextless, areTextless_eq_all, Bool.and_assoc]
  | inContainer _ _ _ _ ih | inApplied _ _ _ _ ih => simp [isTextless, areTextless_eq_all, ih]
  | inAnnotated _ _ ih | inUnion _ _ ih => simp [isTextless, ih]
  | inText => rfl

theorem isTextless_of_mem_arguments {s : Spelling} {before after : List Spelling}
    (textless : areTextless (before ++ s :: after) = true) : s.isTextless = true := by
  rw [areTextless_eq_all, List.all_eq_true] at textless
  exact textless s (by simp)

/-- However a type without texts is written, it is the same type. -/
theorem Respells.same {s s' : Spelling} (respells : s.Respells s')
    (textless : s.isTextless = true) : s.type.same s'.type = true := by
  induction respells with
  | refl s => exact TypeExpr.same_refl s.type
  | symm respells ih => exact TypeExpr.same_symm (ih (respells.isTextless_eq ▸ textless))
  | trans first _ ih ih' =>
    exact TypeExpr.same_trans (ih textless) (ih' (first.isTextless_eq ▸ textless))
  | order perm => exact same_union_of_mem_iff fun _ => perm.mem_iff
  | again mem => exact same_union_of_mem_iff fun t => by simp_all
  | nested first inner rest =>
    refine TypeExpr.same_bracketUnion ?_
    have members := TypeExpr.alike_contributed_bracketUnion (isFormed_of_mem_types (first :: inner))
    have joined : types (first :: (inner ++ rest)) = types (first :: inner) ++ types rest := by
      simp [types_eq_map]
    show TypeExpr.Alike _ ((types (first :: (inner ++ rest))).flatMap TypeExpr.contributed)
    rw [joined, List.flatMap_append]
    exact members.append_right _
  | @alone s isArgument => exact TypeExpr.same_bracketUnion_singleton s.isFormed_type isArgument
  | optional s => exact TypeExpr.same_refl _
  | bar left right => exact TypeExpr.same_bar left.type right.type
  | inContainer c before after _ ih =>
    have same := ih (isTextless_of_mem_arguments textless)
    exact TypeExpr.same_generic_iff.mpr ⟨_, rfl, forall₂_same_types same before after⟩
  | inApplied head before after _ ih =>
    have same := ih (isTextless_of_mem_arguments textless)
    refine TypeExpr.same_generic_iff.mpr ⟨_, rfl, ?_⟩
    rw [List.forall₂_map_left_iff, List.forall₂_map_right_iff]
    exact (forall₂_same_types same before after).imp fun _ _ => TypeExpr.same_asArgument
  | inAnnotated metadata _ ih => exact TypeExpr.same_annotate (ih textless) metadata
  | inUnion rest _ ih =>
    exact TypeExpr.same_bracketUnion_cons (ih (Bool.and_eq_true_iff.mp textless).1) (types rest)
  | inText => cases textless

end Spelling

/-- No reference to a text stands in the type. Two references to one text may be told apart by
what they were resolved to, which is not part of a type expression. -/
def TypeExpr.holdsNoReference (t : TypeExpr) : Bool :=
  t.everywhere fun part => part.text?.all fun text => !text.1

/-- Agreement is an equivalence of the declared types that hold no references. Which of them
agree with a type does not depend on wrappers that are put around them, unless null or a text
stands for another type under these, nor on the way in which the unions in a type without texts
are written. -/
theorem agreement_of_declared_types (u : TypeExpr) :
    (Equivalence fun s t : { t : TypeExpr // t.holdsNoReference = true } =>
      s.val.agrees t.val = true) ∧
    (∀ (t : TypeExpr) (stack : List Wrapper), t.isArgument = true →
      (t.declaredUnder stack).agrees u = t.agrees u) ∧
    ∀ s s' : Spelling, s.Respells s' → s.isTextless = true →
      s.type.agrees u = s'.type.agrees u := by
  obtain ⟨refl, symm, trans⟩ := TypeExpr.equivalence_agrees
  refine ⟨⟨fun s => refl s.val, symm, trans⟩, fun t stack isArgument => ?_,
    fun s s' respells textless => ?_⟩
  · rw [TypeExpr.agrees, TypeExpr.core_declaredUnder stack isArgument, TypeExpr.agrees]
  · exact TypeExpr.agrees_congr (respells.same textless) u

namespace Spelling

/-- A number or null, as an optional type. -/
def optionalCount : Spelling :=
  .optional (.plain (.standard .int) rfl)

/-- A number or null, joined by a bar. -/
def barredCount : Spelling :=
  .bar null (.plain (.standard .int) rfl)

/-- An optional number is a union by a bar in another order. -/
theorem respells_count : optionalCount.Respells barredCount :=
  .trans (.optional _) (.trans (.order (.swap _ _ [])) (.symm (.bar _ _)))

end Spelling

/-- A list of optional numbers agrees with what a list of numbers or null agrees with, also
when the number is required. -/
theorem agreement_of_declared_types_count :
    Spelling.Respells (.container .list [.optionalCount]) (.container .list [.barredCount]) ∧
    (TypeExpr.declaredUnder Spelling.barredCount.type [.qualifier .required]).agrees
      Spelling.optionalCount.type = true ∧
    (Spelling.container .list [.optionalCount]).type.agrees
      (Spelling.container .list [.barredCount]).type = true := by
  have inList : Spelling.Respells (.container .list [.optionalCount])
      (.container .list [.barredCount]) := Spelling.respells_count.inContainer .list [] []
  refine ⟨inList, ?_, ?_⟩
  · obtain ⟨equivalence, wrapped, written⟩ :=
      agreement_of_declared_types Spelling.optionalCount.type
    rw [wrapped _ _ rfl, ← written _ _ Spelling.respells_count rfl]
    exact equivalence.refl ⟨Spelling.optionalCount.type, rfl⟩
  · obtain ⟨equivalence, -, written⟩ :=
      agreement_of_declared_types (Spelling.container .list [.barredCount]).type
    rw [written _ _ inList rfl]
    exact equivalence.refl ⟨(Spelling.container .list [.barredCount]).type, rfl⟩

/-- A list of a text for an optional number is another way to write a list of a text for the
same union by a bar, but it does not agree with it, although the two unions agree. -/
theorem not_agrees_of_respelled_inside :
    Spelling.Respells (.applied .listAlias [.text "Optional[int]" .optionalCount])
      (.applied .listAlias [.text "None | int" .barredCount]) ∧
    Spelling.optionalCount.type.agrees Spelling.barredCount.type = true ∧
    (Spelling.applied .listAlias [.text "Optional[int]" .optionalCount]).type.agrees
      (Spelling.applied .listAlias [.text "None | int" .barredCount]).type = false :=
  ⟨(Spelling.respells_count.inText _ _).inApplied .listAlias [] [], rfl, by decide⟩

end ObjectMapping
