import ObjectMapping.Proofs.TypeExpr.Formation
import ObjectMapping.Proofs.TypeExpr.Unwrapping
import ObjectMapping.TypeExpr.Resolution

/-!
# The two ways to resolve a declared type

The annotation of a class is resolved on the surface, and the result type of a getter
in depth. The two give the same type under all wrappers where there is nothing for the
second one to change: `isPlain` says that a type holds no text, no annotations and no
form for the presence of a member. `core_asResult_of_isPlain` shows that this suffices,
and `isPlain_of_agrees` that nothing else does, but for texts that lead back to
themselves.
-/

namespace ObjectMapping.TypeExpr

/-! ## What resolving in depth leaves as it is -/

/-- The type itself is no text. -/
def isTextless : TypeExpr → Bool
  | .text _ _ _ | .brokenText _ _ _ => false
  | _ => true

/-- The type itself is no parameter that is not stored. -/
def isStorable : TypeExpr → Bool
  | .initOnly _ _ => false
  | _ => true

/-- Resolving the type again gives the same type: no text in it stands for a parameter that is
not stored, which would be another one each time. -/
def isRepeatable (t : TypeExpr) : Bool :=
  t.everywhere fun
    | .text _ _ meaning => meaning.everywhere isStorable
    | _ => true

/-- The type itself is not one that resolving in depth takes away. -/
def isLeft : TypeExpr → Bool
  | .annotated _ _ | .text _ _ _ | .brokenText _ _ _ => false
  | .generic (.qualifier .required) [_] | .generic (.qualifier .notRequired) [_] => false
  | _ => true

/-- The type holds nothing that resolving in depth changes. -/
def isPlain (t : TypeExpr) : Bool :=
  t.everywhere isLeft

mutual

/-- No text of the type leads back to itself or to one of the given texts. -/
def isFounded (pending : List String) : TypeExpr → Bool
  | .text _ source meaning => !pending.contains source && isFounded (source :: pending) meaning
  | .generic _ arguments => areFounded pending arguments
  | .union _ members => areFounded pending members
  | .annotated inner _ => isFounded pending inner
  | _ => true
termination_by structural t => t

/-- No text of the types leads back to itself or to one of the given texts. -/
def areFounded (pending : List String) : List TypeExpr → Bool
  | [] => true
  | first :: rest => isFounded pending first && areFounded pending rest

end

/-! ## Steps that end with a result -/

theorem exists_of_map_eq_ok {ε α β : Type} {outcome : Except ε α} {f : α → β} {b : β}
    (given : outcome.map f = .ok b) : ∃ a, outcome = .ok a ∧ f a = b := by
  cases outcome with
  | error e => cases given
  | ok a => exact ⟨a, rfl, Except.ok.inj given⟩

theorem exists_of_resolveDeepAll_cons {pending : List String} {first : TypeExpr}
    {rest results : List TypeExpr} (given : resolveDeepAll pending (first :: rest) = .ok results) :
    ∃ t others, resolveDeep pending false first = .ok t ∧
      resolveDeepAll pending rest = .ok others ∧ results = t :: others := by
  rw [resolveDeepAll] at given
  cases isFirst : resolveDeep pending false first with
  | error e => simp [isFirst, bind, Except.bind] at given
  | ok t =>
    cases isRest : resolveDeepAll pending rest with
    | error e => simp [isFirst, isRest, bind, Except.bind] at given
    | ok others =>
      simp only [isFirst, isRest, bind, Except.bind, pure, Except.pure] at given
      exact ⟨t, others, rfl, rfl, (Except.ok.inj given).symm⟩

theorem exists_of_strippedAll_cons {first : TypeExpr} {rest results : List TypeExpr}
    (given : strippedAll (first :: rest) = .ok results) :
    ∃ t others, stripped first = .ok t ∧ strippedAll rest = .ok others ∧
      results = t :: others := by
  rw [strippedAll] at given
  cases isFirst : stripped first with
  | error e => simp [isFirst, bind, Except.bind] at given
  | ok t =>
    cases isRest : strippedAll rest with
    | error e => simp [isFirst, isRest, bind, Except.bind] at given
    | ok others =>
      simp only [isFirst, isRest, bind, Except.bind, pure, Except.pure] at given
      exact ⟨t, others, rfl, rfl, (Except.ok.inj given).symm⟩

/-- A union loses the annotations of its members, and is formed again from them. -/
theorem exists_of_stripped_union {spelling : UnionSpelling} {members : List TypeExpr}
    {result : TypeExpr} (given : stripped (.union spelling members) = .ok result) :
    ∃ others, strippedAll members = .ok others ∧ result = reunite spelling others := by
  rw [stripped] at given
  cases isAll : strippedAll members with
  | error e => simp [isAll, bind, Except.bind] at given
  | ok others =>
    simp only [isAll, bind, Except.bind] at given
    split at given
    · cases given
    · exact ⟨others, rfl, (Except.ok.inj given).symm⟩

/-- A form other than those for the presence of a member keeps its head. -/
theorem stripped_generic {head : Head} {arguments : List TypeExpr}
    (left : isLeft (.generic head arguments) = true) :
    stripped (.generic head arguments) = (strippedAll arguments).map (.generic head) := by
  cases head with
  | qualifier q =>
    cases q with
    | required | notRequired =>
      match arguments, left with
      | [], _ | _ :: _ :: _, _ => rfl
    | _ => rfl
  | _ => rfl

/-- A form loses the annotations of its arguments, or gives way to its only one. -/
theorem exists_of_stripped_generic {head : Head} {arguments : List TypeExpr} {result : TypeExpr}
    (given : stripped (.generic head arguments) = .ok result) :
    ∃ others, strippedAll arguments = .ok others ∧
      (result = .generic head others ∧ isLeft (.generic head others) = true ∨
        result ∈ others) := by
  by_cases left : isLeft (.generic head arguments) = true
  · rw [stripped_generic left] at given
    obtain ⟨others, isAll, rfl⟩ := exists_of_map_eq_ok given
    refine ⟨others, isAll, .inl ⟨rfl, ?_⟩⟩
    cases head with
    | qualifier q =>
      cases q with
      | required | notRequired =>
        match arguments, left with
        | [], _ => exact Except.ok.inj isAll ▸ rfl
        | first :: second :: rest, _ =>
          obtain ⟨t, later, -, isRest, rfl⟩ := exists_of_strippedAll_cons isAll
          obtain ⟨t', later, -, -, rfl⟩ := exists_of_strippedAll_cons isRest
          rfl
      | _ => rfl
    | _ => rfl
  · have alone : ∃ inner, arguments = [inner] ∧ stripped inner = .ok result := by
      match head, arguments, left with
      | .qualifier .required, [inner], _ => exact ⟨inner, rfl, given⟩
      | .qualifier .notRequired, [inner], _ => exact ⟨inner, rfl, given⟩
    obtain ⟨inner, rfl, isInner⟩ := alone
    refine ⟨[result], ?_, .inr List.mem_cons_self⟩
    rw [strippedAll, isInner]
    rfl

/-! ## Plain types -/

mutual

/-- A plain type resolves to itself. -/
theorem resolveDeep_of_isPlain (pending : List String) (allowed : Bool) :
    (t : TypeExpr) → t.isPlain = true → t.isFormed = true →
      resolveDeep pending allowed t = .ok t
  | .generic head arguments, plain, formed => by
    have plainParts := (everywhere_generic_iff.mp plain).2
    have formedParts := (everywhere_generic_iff.mp formed).2
    have parts := resolveDeepAll_of_isPlain pending arguments plainParts formedParts
    have wellFormed := holdsMalformed_of_isPlain arguments plainParts
    cases head <;> simp [resolveDeep, parts, wellFormed, Except.map]
  | .union spelling members, plain, formed => by
    obtain ⟨normal, formedParts⟩ := everywhere_union_iff.mp formed
    have parts := resolveDeepAll_of_isPlain pending members (everywhere_union_iff.mp plain).2
      formedParts
    simp [resolveDeep, parts, Except.map, reunite_of_normal (of_decide_eq_true normal)]
  | .named _, _, _ | .any, _, _ | .none, _, _ | .ellipsis, _, _ | .form _, _, _
  | .literal _, _, _ | .typeVar _, _, _ | .initOnly _ _, _, _ | .other _, _, _ => rfl

theorem resolveDeepAll_of_isPlain (pending : List String) :
    (types : List TypeExpr) → everywhereAmong isLeft types = true →
      everywhereAmong isFormedHere types = true → resolveDeepAll pending types = .ok types
  | [], _, _ => rfl
  | first :: rest, plain, formed => by
    obtain ⟨plainFirst, plainRest⟩ := Bool.and_eq_true_iff.mp plain
    obtain ⟨formedFirst, formedRest⟩ := Bool.and_eq_true_iff.mp formed
    rw [resolveDeepAll, resolveDeep_of_isPlain pending false first plainFirst formedFirst,
      resolveDeepAll_of_isPlain pending rest plainRest formedRest]
    rfl

theorem holdsMalformed_of_isPlain :
    (types : List TypeExpr) → everywhereAmong isLeft types = true →
      holdsMalformed types = false
  | [], _ => rfl
  | first :: rest, plain => by
    obtain ⟨plainFirst, plainRest⟩ := Bool.and_eq_true_iff.mp plain
    have later := holdsMalformed_of_isPlain rest plainRest
    cases first with
    | brokenText => cases plainFirst
    | _ => exact later

end

mutual

/-- A plain type has no annotations that could be taken off. -/
theorem eq_of_stripped_of_isPlain :
    (t : TypeExpr) → t.isPlain = true → t.isFormed = true → {result : TypeExpr} →
      stripped t = .ok result → result = t
  | .generic head arguments, plain, formed, result, given => by
    obtain ⟨left, plainParts⟩ := everywhere_generic_iff.mp plain
    rw [stripped_generic left] at given
    obtain ⟨others, isAll, rfl⟩ := exists_of_map_eq_ok given
    rw [eq_of_strippedAll_of_isPlain arguments plainParts (everywhere_generic_iff.mp formed).2
      isAll]
  | .union spelling members, plain, formed, result, given => by
    obtain ⟨normal, formedParts⟩ := everywhere_union_iff.mp formed
    obtain ⟨others, isAll, rfl⟩ := exists_of_stripped_union given
    rw [eq_of_strippedAll_of_isPlain members (everywhere_union_iff.mp plain).2 formedParts isAll,
      reunite_of_normal (of_decide_eq_true normal)]
  | .named _, _, _, _, given | .any, _, _, _, given | .none, _, _, _, given
  | .ellipsis, _, _, _, given | .form _, _, _, _, given | .literal _, _, _, _, given
  | .typeVar _, _, _, _, given | .initOnly _ _, _, _, _, given | .other _, _, _, _, given =>
    (Except.ok.inj given).symm

theorem eq_of_strippedAll_of_isPlain :
    (types : List TypeExpr) → everywhereAmong isLeft types = true →
      everywhereAmong isFormedHere types = true → {results : List TypeExpr} →
      strippedAll types = .ok results → results = types
  | [], _, _, results, given => (Except.ok.inj given).symm
  | first :: rest, plain, formed, results, given => by
    obtain ⟨plainFirst, plainRest⟩ := Bool.and_eq_true_iff.mp plain
    obtain ⟨formedFirst, formedRest⟩ := Bool.and_eq_true_iff.mp formed
    obtain ⟨t, others, isFirst, isRest, rfl⟩ := exists_of_strippedAll_cons given
    rw [eq_of_stripped_of_isPlain first plainFirst formedFirst isFirst,
      eq_of_strippedAll_of_isPlain rest plainRest formedRest isRest]

end

/-! ## Under the wrappers -/

/-- The second type is the first one under its wrappers. -/
inductive UnderWrappers : TypeExpr → TypeExpr → Prop where
  | annotated {inner core} (metadata : List Scalar) (under : UnderWrappers inner core) :
      UnderWrappers (.annotated inner metadata) core
  | qualified {inner core} (q : Qualifier) (under : UnderWrappers inner core) :
      UnderWrappers (.generic (.qualifier q) [inner]) core
  /-- A class-level form that stands bare is a wrapper of the type of all values. -/
  | bare {f} (isClassLevel : isClassLevelForm (.form f) = true) : UnderWrappers (.form f) .any
  | unwrapped {t} (same : t.core = t) : UnderWrappers t t

theorem underWrappers_core : (t : TypeExpr) → UnderWrappers t t.core
  | .annotated inner metadata => .annotated metadata (underWrappers_core inner)
  | .generic (.qualifier q) [inner] =>
    core_qualified q inner ▸ .qualified q (underWrappers_core inner)
  | .generic (.qualifier _) [] | .generic (.qualifier _) (_ :: _ :: _) => .unwrapped rfl
  | .generic .listAlias [] | .generic .listAlias [_] | .generic .listAlias (_ :: _ :: _)
  | .generic .dictAlias [] | .generic .dictAlias [_] | .generic .dictAlias (_ :: _ :: _)
  | .generic .callable [] | .generic .callable [_] | .generic .callable (_ :: _ :: _)
  | .generic (.container _) [] | .generic (.container _) (_ :: _ :: _) => .unwrapped rfl
  | .generic (.container c) [inner] => by cases c <;> exact .unwrapped rfl
  | .form f => by
    cases f with
    | classVar | final => exact .bare rfl
    | _ => exact .unwrapped rfl
  | .literal [] | .literal [_] | .literal (_ :: _ :: _) => .unwrapped rfl
  | .named _ | .any | .none | .ellipsis | .union _ _ | .typeVar _ | .initOnly _ _
  | .text _ _ _ | .brokenText _ _ _ | .other _ => .unwrapped rfl

/-- The type under wrappers is what unwrapping gives. -/
theorem UnderWrappers.core_eq {t core : TypeExpr} (under : UnderWrappers t core) :
    t.core = core := by
  induction under with
  | annotated metadata under ih => exact ih
  | qualified q under ih => exact (core_qualified q _).trans ih
  | @bare f isClassLevel =>
    cases f with
    | classVar | final => rfl
    | _ => cases isClassLevel
  | unwrapped same => exact same

/-- A condition on all parts of a type holds of all parts of what is under its wrappers. -/
theorem everywhere_core {condition : TypeExpr → Bool} (ofAny : condition .any = true)
    {t : TypeExpr} (holds : t.everywhere condition = true) :
    t.core.everywhere condition = true := by
  have under := underWrappers_core t
  generalize t.core = core at under
  induction under with
  | annotated metadata under ih => exact ih (everywhere_annotated_iff.mp holds).2
  | qualified q under ih =>
    have parts := (everywhere_generic_iff.mp holds).2
    exact ih ((everywhereAmong_iff _).mp parts _ List.mem_cons_self)
  | bare => exact ofAny
  | unwrapped => exact holds

/-- Null is under no wrapper. -/
theorem UnderWrappers.eq_none {t core : TypeExpr} (under : UnderWrappers t core)
    (formed : t.isFormed = true) (isNone : core = .none) : t = .none := by
  induction under with
  | annotated metadata under ih =>
    obtain ⟨isArgument, formedInner⟩ := everywhere_annotated_iff.mp formed
    have isNull := ih formedInner isNone
    subst isNull
    cases isArgument
  | qualified q under ih =>
    obtain ⟨isArgument, parts⟩ := everywhere_generic_iff.mp formed
    have isNull := ih ((everywhereAmong_iff _).mp parts _ List.mem_cons_self) isNone
    subst isNull
    cases isArgument
  | bare => cases isNone
  | unwrapped => exact isNone

/-- Annotations are taken off again, whatever they join. -/
theorem stripped_annotate (t : TypeExpr) (metadata : List Scalar) :
    stripped (annotate t metadata) = stripped t.underAnnotations := by
  rw [annotate]
  split
  · next innermost earlier isAnnotated => rw [isAnnotated, stripped, stripped]
  · rw [stripped]

/-- What is in the place under annotations is the same there, but for null and texts. -/
theorem underAnnotations_eq {t : TypeExpr} (notNull : t ≠ .none)
    (isTextless : t.isTextless = true) : t.underAnnotations = t := by
  cases t with
  | none => exact absurd rfl notNull
  | text | brokenText => cases isTextless
  | _ => rfl

/-- If the type under all wrappers is plain and not null, then it is also what resolving
the whole type in depth leaves under wrappers. -/
theorem UnderWrappers.core_of_resolved {t core : TypeExpr} (under : UnderWrappers t core)
    (plain : core.isPlain = true) (formed : core.isFormed = true) (notNull : core ≠ .none)
    {pending : List String} {allowed : Bool} {deep result : TypeExpr}
    (isDeep : resolveDeep pending allowed t = .ok deep) (isResult : stripped deep = .ok result) :
    result.core = core := by
  induction under generalizing pending allowed deep result with
  | @annotated inner core metadata under ih =>
    obtain ⟨deepInner, isInner, rfl⟩ := exists_of_map_eq_ok isDeep
    rw [stripped_annotate] at isResult
    -- Null or a text would be left as it is, and so be what is under the wrappers.
    have stays : deepInner.underAnnotations = deepInner := by
      refine underAnnotations_eq ?_ ?_
      · rintro rfl
        exact notNull (ih plain formed notNull isInner rfl).symm
      · cases deepInner with
        | text | brokenText =>
          obtain rfl := ih plain formed notNull isInner rfl
          cases plain
        | _ => rfl
    rw [stays] at isResult
    exact ih plain formed notNull isInner isResult
  | @qualified inner core q under ih =>
    obtain ⟨others, isAll, rfl⟩ := exists_of_map_eq_ok isDeep
    obtain ⟨deepInner, nothing, isInner, isNothing, rfl⟩ := exists_of_resolveDeepAll_cons isAll
    obtain rfl := Except.ok.inj isNothing
    have strips (left : isLeft (.generic (.qualifier q) [deepInner]) = true) :
        result.core = core := by
      rw [stripped_generic left] at isResult
      obtain ⟨results, isAll, rfl⟩ := exists_of_map_eq_ok isResult
      obtain ⟨inside, nothing, isInside, isNothing, rfl⟩ := exists_of_strippedAll_cons isAll
      obtain rfl := Except.ok.inj isNothing
      rw [core_qualified]
      exact ih plain formed notNull isInner isInside
    cases q with
    | required | notRequired => exact ih plain formed notNull isInner isResult
    | _ => exact strips rfl
  | @bare f isClassLevel =>
    obtain rfl := Except.ok.inj isDeep
    obtain rfl := Except.ok.inj isResult
    exact (UnderWrappers.bare isClassLevel).core_eq
  | unwrapped same =>
    rw [resolveDeep_of_isPlain pending allowed _ plain formed] at isDeep
    obtain rfl := Except.ok.inj isDeep
    rw [eq_of_stripped_of_isPlain _ plain formed isResult, same]

/-! ## What comes out of resolving in depth -/

/-- A condition on types that unions do not go against. -/
structure IsKeptByUnions (condition : TypeExpr → Bool) : Prop where
  ofUnion : ∀ spelling members, condition (.union spelling members) = true
  ofArgument : ∀ t : TypeExpr, t.everywhere condition = true →
    t.asArgument.everywhere condition = true

section Reuniting

variable {condition : TypeExpr → Bool}

theorem IsKeptByUnions.unionOf (kept : IsKeptByUnions condition) (spelling : UnionSpelling)
    {types : List TypeExpr} (each : ∀ t ∈ types, t.everywhere condition = true) :
    (unionOf spelling types).everywhere condition = true := by
  have flat : ∀ m ∈ types.flatMap unionMembers, m.everywhere condition = true := by
    intro m mem
    obtain ⟨t, memTypes, memMembers⟩ := List.mem_flatMap.mp mem
    cases t with
    | union spelling members =>
      exact (everywhereAmong_iff _).mp (everywhere_union_iff.mp (each _ memTypes)).2 m memMembers
    | _ => exact List.mem_singleton.mp memMembers ▸ each _ memTypes
  have among := (pairwise_foldl_keepNew (types.flatMap unionMembers) .nil).2.2
  rw [← distinct_eq_foldl] at among
  rw [TypeExpr.unionOf]
  split
  · next member single => exact flat member (among (single ▸ List.mem_cons_self))
  · exact everywhere_union_iff.mpr ⟨kept.ofUnion _ _,
      (everywhereAmong_iff _).mpr fun m mem => flat m (among mem)⟩

theorem IsKeptByUnions.bracketUnion (kept : IsKeptByUnions condition) {types : List TypeExpr}
    (each : ∀ t ∈ types, t.everywhere condition = true) :
    (bracketUnion types).everywhere condition = true := by
  refine kept.unionOf .brackets fun t mem => ?_
  obtain ⟨given, isGiven, rfl⟩ := List.mem_map.mp mem
  exact kept.ofArgument given (each given isGiven)

theorem IsKeptByUnions.bar (kept : IsKeptByUnions condition) {left right : TypeExpr}
    (isLeft : left.everywhere condition = true) (isRight : right.everywhere condition = true) :
    (bar left right).everywhere condition = true := by
  have operand {t : TypeExpr} (holds : t.everywhere condition = true) :
      t.barOperand.everywhere condition = true := by
    cases t with
    | none => exact kept.ofArgument _ holds
    | _ => exact holds
  rw [TypeExpr.bar]
  split
  · exact kept.unionOf .bars (by simp [operand isLeft, operand isRight])
  · exact kept.bracketUnion (by simp [isLeft, isRight])

theorem IsKeptByUnions.foldl_bar (kept : IsKeptByUnions condition) {first : TypeExpr}
    {rest : List TypeExpr} (isFirst : first.everywhere condition = true)
    (isRest : ∀ t ∈ rest, t.everywhere condition = true) :
    (rest.foldl TypeExpr.bar first).everywhere condition = true := by
  induction rest generalizing first with
  | nil => exact isFirst
  | cons t rest ih =>
    obtain ⟨isNext, others⟩ := List.forall_mem_cons.mp isRest
    exact ih (kept.bar isFirst isNext) others

theorem IsKeptByUnions.reunite (kept : IsKeptByUnions condition) (spelling : UnionSpelling)
    {members : List TypeExpr} (each : everywhereAmong condition members = true) :
    (reunite spelling members).everywhere condition = true := by
  rw [everywhereAmong_iff] at each
  cases spelling with
  | brackets => exact kept.bracketUnion each
  | bars =>
    cases members with
    | nil => exact everywhere_union_iff.mpr ⟨kept.ofUnion _ _, rfl⟩
    | cons first rest =>
      obtain ⟨isFirst, isRest⟩ := List.forall_mem_cons.mp each
      exact kept.foldl_bar isFirst isRest

end Reuniting

theorem isKeptByUnions_isTextless : IsKeptByUnions isTextless where
  ofUnion _ _ := rfl
  ofArgument t holds := by
    cases t with
    | text | brokenText => cases condition_of_everywhere holds
    | _ => exact holds

theorem isKeptByUnions_isLeft : IsKeptByUnions isLeft where
  ofUnion _ _ := rfl
  ofArgument t holds := by
    cases t with
    | text | brokenText => cases condition_of_everywhere holds
    | _ => exact holds

theorem isTextless_annotate {t : TypeExpr} (textless : t.everywhere isTextless = true)
    (metadata : List Scalar) : (annotate t metadata).everywhere isTextless = true := by
  cases t with
  | text | brokenText => cases condition_of_everywhere textless
  | _ => exact textless

theorem isTextless_nullAsClass {t : TypeExpr} (textless : t.everywhere isTextless = true) :
    t.nullAsClass.everywhere isTextless = true := by
  cases t <;> exact textless

mutual

/-- Where no text leads back to itself, resolving in depth leaves no text. -/
theorem isTextless_of_resolveDeep :
    (t : TypeExpr) → {pending : List String} → {allowed : Bool} → t.isFounded pending = true →
      {result : TypeExpr} → resolveDeep pending allowed t = .ok result →
      result.everywhere isTextless = true
  | .text place source meaning, pending, allowed, founded, result, given => by
    obtain ⟨notPending, foundedMeaning⟩ := Bool.and_eq_true_iff.mp founded
    rw [resolveDeep, if_neg (by simpa using notPending)] at given
    split at given
    · cases given
    · obtain ⟨deep, isDeep, rfl⟩ := exists_of_map_eq_ok given
      exact isTextless_nullAsClass (isTextless_of_resolveDeep meaning foundedMeaning isDeep)
  | .generic head arguments, pending, allowed, founded, result, given => by
    have others : ∃ others, resolveDeepAll pending arguments = .ok others ∧
        .generic head others = result := by
      cases head with
      | container c =>
        rw [resolveDeep] at given
        split at given
        · cases given
        · exact exists_of_map_eq_ok given
      | _ => exact exists_of_map_eq_ok given
    obtain ⟨others, isAll, rfl⟩ := others
    exact everywhere_generic_iff.mpr
      ⟨rfl, isTextless_of_resolveDeepAll arguments founded isAll⟩
  | .union spelling members, pending, allowed, founded, result, given => by
    obtain ⟨others, isAll, rfl⟩ := exists_of_map_eq_ok given
    exact isKeptByUnions_isTextless.reunite spelling
      (isTextless_of_resolveDeepAll members founded isAll)
  | .annotated inner metadata, pending, allowed, founded, result, given => by
    obtain ⟨deep, isDeep, rfl⟩ := exists_of_map_eq_ok given
    exact isTextless_annotate (isTextless_of_resolveDeep inner founded isDeep) metadata
  | .brokenText _ _ _, _, _, _, _, given => nomatch given
  | .named _, _, _, _, _, given | .any, _, _, _, _, given | .none, _, _, _, _, given
  | .ellipsis, _, _, _, _, given | .form _, _, _, _, _, given | .literal _, _, _, _, _, given
  | .typeVar _, _, _, _, _, given | .initOnly _ _, _, _, _, _, given
  | .other _, _, _, _, _, given => Except.ok.inj given ▸ rfl

theorem isTextless_of_resolveDeepAll :
    (types : List TypeExpr) → {pending : List String} → areFounded pending types = true →
      {results : List TypeExpr} → resolveDeepAll pending types = .ok results →
      everywhereAmong isTextless results = true
  | [], _, _, results, given => Except.ok.inj given ▸ rfl
  | first :: rest, pending, founded, results, given => by
    obtain ⟨foundedFirst, foundedRest⟩ := Bool.and_eq_true_iff.mp founded
    obtain ⟨t, others, isFirst, isRest, rfl⟩ := exists_of_resolveDeepAll_cons given
    exact Bool.and_eq_true_iff.mpr ⟨isTextless_of_resolveDeep first foundedFirst isFirst,
      isTextless_of_resolveDeepAll rest foundedRest isRest⟩

end

mutual

/-- What holds no text is plain without its annotations. -/
theorem isPlain_of_stripped :
    (t : TypeExpr) → t.everywhere isTextless = true → {result : TypeExpr} →
      stripped t = .ok result → result.isPlain = true
  | .annotated inner metadata, textless, result, given =>
    isPlain_of_stripped inner (everywhere_annotated_iff.mp textless).2 given
  | .generic head arguments, textless, result, given => by
    obtain ⟨others, isAll, result⟩ := exists_of_stripped_generic given
    have parts := isPlain_of_strippedAll arguments (everywhere_generic_iff.mp textless).2 isAll
    rcases result with ⟨rfl, left⟩ | mem
    · exact everywhere_generic_iff.mpr ⟨left, parts⟩
    · exact (everywhereAmong_iff others).mp parts _ mem
  | .union spelling members, textless, result, given => by
    obtain ⟨others, isAll, rfl⟩ := exists_of_stripped_union given
    exact isKeptByUnions_isLeft.reunite spelling
      (isPlain_of_strippedAll members (everywhere_union_iff.mp textless).2 isAll)
  | .text _ _ _, textless, _, _ => nomatch condition_of_everywhere textless
  | .brokenText _ _ _, textless, _, _ => nomatch condition_of_everywhere textless
  | .named _, _, _, given | .any, _, _, given | .none, _, _, given
  | .ellipsis, _, _, given | .form _, _, _, given | .literal _, _, _, given
  | .typeVar _, _, _, given | .initOnly _ _, _, _, given | .other _, _, _, given =>
    Except.ok.inj given ▸ rfl

theorem isPlain_of_strippedAll :
    (types : List TypeExpr) → everywhereAmong isTextless types = true →
      {results : List TypeExpr} → strippedAll types = .ok results →
      everywhereAmong isLeft results = true
  | [], _, results, given => Except.ok.inj given ▸ rfl
  | first :: rest, textless, results, given => by
    obtain ⟨textlessFirst, textlessRest⟩ := Bool.and_eq_true_iff.mp textless
    obtain ⟨t, others, isFirst, isRest, rfl⟩ := exists_of_strippedAll_cons given
    exact Bool.and_eq_true_iff.mpr ⟨isPlain_of_stripped first textlessFirst isFirst,
      isPlain_of_strippedAll rest textlessRest isRest⟩

end

/-! ## What is the same as a plain type -/

/-- Whether a form is taken away depends on the number of its arguments. -/
theorem isLeft_of_length {head : Head} {first second : List TypeExpr}
    (sameLength : first.length = second.length) (left : isLeft (.generic head second) = true) :
    isLeft (.generic head first) = true := by
  cases head with
  | qualifier q =>
    cases q with
    | required | notRequired =>
      match first, second, sameLength, left with
      | [], _, _, _ | _ :: _ :: _, _, _, _ => rfl
      | [_], [_], _, left => cases left
      | [_], [], sameLength, _ | [_], _ :: _ :: _, sameLength, _ => simp at sameLength
    | _ => rfl
  | _ => rfl

theorem text?_of_isPlain {t : TypeExpr} (plain : t.isPlain = true) : t.text? = Option.none := by
  cases t with
  | text | brokenText => cases condition_of_everywhere plain
  | _ => rfl

/-- Each element of a list that is related to another, place by place, is related to one
of its elements. -/
theorem exists_mem_of_forall₂ {α : Type} {R : α → α → Prop} {first second : List α}
    (each : List.Forall₂ R first second) : ∀ a ∈ first, ∃ b ∈ second, R a b := by
  induction each with
  | nil => exact fun _ mem => nomatch mem
  | cons head _ ih =>
    refine List.forall_mem_cons.mpr ⟨⟨_, List.mem_cons_self, head⟩, fun a mem => ?_⟩
    obtain ⟨b, later, related⟩ := ih a mem
    exact ⟨b, List.mem_cons_of_mem _ later, related⟩

/-- What is the same as a plain type is plain. -/
theorem isPlain_of_same {s t : TypeExpr} (same : s.same t = true) (plain : t.isPlain = true) :
    s.isPlain = true := by
  induction s using induction_parts generalizing t with
  | step s ih =>
    cases s with
    | generic head arguments =>
      obtain ⟨arguments', rfl, all⟩ := same_generic_iff.mp same
      obtain ⟨left, parts⟩ := everywhere_generic_iff.mp plain
      rw [everywhereAmong_iff] at parts
      refine everywhere_generic_iff.mpr ⟨isLeft_of_length all.length_eq left,
        (everywhereAmong_iff arguments).mpr fun s mem => ?_⟩
      obtain ⟨t, isArgument, isSame⟩ := exists_mem_of_forall₂ all s mem
      exact ih s mem isSame (parts t isArgument)
    | union spelling members =>
      obtain ⟨_, members', rfl, within, -⟩ := same_union_iff.mp same
      have parts := (everywhere_union_iff.mp plain).2
      rw [everywhereAmong_iff] at parts
      refine everywhere_union_iff.mpr ⟨rfl, (everywhereAmong_iff members).mpr fun s mem => ?_⟩
      obtain ⟨t, isMember, isSame⟩ := within s mem
      exact ih s mem isSame (parts t isMember)
    | annotated inner metadata =>
      obtain ⟨_, _, rfl, -⟩ := same_annotated_iff.mp same
      cases condition_of_everywhere plain
    | text | brokenText =>
      rw [TypeExpr.same, text?_of_isPlain plain] at same
      cases same
    | _ => rfl

/-! ## The two ways together -/

/-- A type that resolves in depth comes from what it is on the surface. -/
theorem exists_resolveDeep_surface {t surface result : TypeExpr}
    (isSurface : t.resolveSurface = .ok surface)
    (isResult : (t.resolved false >>= stripped) = .ok result) :
    ∃ pending allowed deep, resolveDeep pending allowed surface = .ok deep ∧
      stripped deep.nullAsClass = .ok result ∧
      (t.isFounded [] = true → surface.isFounded pending = true) ∧
      (t.isFormed = true → surface.isFormed = true) := by
  obtain ⟨resolved, isResolved, isStripped⟩ :
      ∃ resolved, t.resolved false = .ok resolved ∧ stripped resolved = .ok result := by
    cases isResolved : t.resolved false with
    | error e => simp [isResolved, bind, Except.bind] at isResult
    | ok resolved => exact ⟨resolved, rfl, by simpa [isResolved, bind, Except.bind] using isResult⟩
  obtain ⟨deep, isDeep, rfl⟩ := exists_of_map_eq_ok isResolved
  -- A text held by itself is taken for its meaning, and any other type for itself.
  by_cases isText : ∃ source, t = .text .free source surface
  · obtain ⟨source, rfl⟩ := isText
    rw [resolveDeep, if_neg (by simp)] at isDeep
    split at isDeep
    · cases isDeep
    · obtain ⟨inner, isInner, rfl⟩ := exists_of_map_eq_ok isDeep
      refine ⟨[source], _, inner, isInner, ?_, fun founded => founded, fun formed => formed⟩
      have twice : inner.nullAsClass.nullAsClass = inner.nullAsClass := by cases inner <;> rfl
      exact twice ▸ isStripped
  · have same : t = surface := by
      rw [resolveSurface.eq_def] at isSurface
      split at isSurface
      · exact absurd ⟨_, congrArg _ (Except.ok.inj isSurface)⟩ isText
      · cases isSurface
      · exact Except.ok.inj isSurface
    subst same
    exact ⟨[], false, deep, isDeep, isStripped, id, id⟩

variable {t surface result : TypeExpr}

/-- A type that is plain under its wrappers, and is not null there, is the same under them
however it is resolved. -/
theorem core_eq_of_isPlain (formed : t.isFormed = true)
    (isSurface : t.resolveSurface = .ok surface)
    (isResult : (t.resolved false >>= stripped) = .ok result)
    (plain : surface.core.isPlain = true) (notNull : surface.core ≠ .none) :
    result.core = surface.core := by
  obtain ⟨pending, allowed, deep, isDeep, isStripped, -, keepsForm⟩ :=
    exists_resolveDeep_surface isSurface isResult
  have formedCore : surface.core.isFormed = true := everywhere_core rfl (keepsForm formed)
  have under := underWrappers_core surface
  have notNullDeep : deep ≠ .none := by
    rintro rfl
    exact notNull (under.core_of_resolved plain formedCore notNull isDeep rfl).symm
  have stays : deep.nullAsClass = deep := by
    cases deep with
    | none => exact absurd rfl notNullDeep
    | _ => rfl
  rw [stays] at isStripped
  exact under.core_of_resolved plain formedCore notNull isDeep isStripped

/-- A type of which no text leads back to itself and that agrees with itself however it is
resolved is plain under its wrappers, and is not null there. -/
theorem isPlain_of_agrees (formed : t.isFormed = true) (founded : t.isFounded [] = true)
    (isSurface : t.resolveSurface = .ok surface)
    (isResult : (t.resolved false >>= stripped) = .ok result)
    (agrees : surface.agrees result = true) :
    surface.core.isPlain = true ∧ surface.core ≠ .none := by
  obtain ⟨pending, allowed, deep, isDeep, isStripped, staysFounded, staysFormed⟩ :=
    exists_resolveDeep_surface isSurface isResult
  have textless := isTextless_of_resolveDeep surface (staysFounded founded) isDeep
  have plain := isPlain_of_stripped _ (isTextless_nullAsClass textless) isStripped
  refine ⟨isPlain_of_same agrees (everywhere_core rfl plain), fun isNull => ?_⟩
  obtain rfl := (underWrappers_core surface).eq_none (staysFormed formed) isNull
  obtain rfl := Except.ok.inj isDeep
  obtain rfl := Except.ok.inj isStripped
  cases agrees

end ObjectMapping.TypeExpr
