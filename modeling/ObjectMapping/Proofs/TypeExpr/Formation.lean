import ObjectMapping.Proofs.TypeExpr.Sameness
import ObjectMapping.TypeExpr.Formation
import Mathlib.Data.List.Basic

/-!
# Types in normal form

The functions that form types keep them in a normal form: an argument of a form of
the type language is neither null nor a text held by itself, and a union has two or
more members, of which none is a union and no two are the same. `isFormed` says so of
a type and of all that it is built from. A union in normal form comes out as it was
when it is formed again from its members.
-/

namespace ObjectMapping.TypeExpr

/-! ## Conditions on all parts of a type -/

mutual

/-- A condition holds of a type and of all types that it is built from. -/
def everywhere (condition : TypeExpr → Bool) : TypeExpr → Bool
  | .generic head arguments =>
      condition (.generic head arguments) && everywhereAmong condition arguments
  | .union spelling members =>
      condition (.union spelling members) && everywhereAmong condition members
  | .annotated inner metadata =>
      condition (.annotated inner metadata) && everywhere condition inner
  | .text place source meaning =>
      condition (.text place source meaning) && everywhere condition meaning
  | t => condition t
termination_by structural t => t

/-- A condition holds of some types and of all types that they are built from. -/
def everywhereAmong (condition : TypeExpr → Bool) : List TypeExpr → Bool
  | [] => true
  | first :: rest => everywhere condition first && everywhereAmong condition rest

end

variable {condition : TypeExpr → Bool}

theorem everywhereAmong_iff (types : List TypeExpr) :
    everywhereAmong condition types = true ↔ ∀ t ∈ types, t.everywhere condition = true := by
  induction types with
  | nil => simp [everywhereAmong]
  | cons first rest ih => simp [everywhereAmong, ih]

theorem everywhere_generic_iff {head : Head} {arguments : List TypeExpr} :
    (generic head arguments).everywhere condition = true ↔
      condition (.generic head arguments) = true ∧ everywhereAmong condition arguments = true :=
  Bool.and_eq_true_iff

theorem everywhere_union_iff {spelling : UnionSpelling} {members : List TypeExpr} :
    (union spelling members).everywhere condition = true ↔
      condition (.union spelling members) = true ∧ everywhereAmong condition members = true :=
  Bool.and_eq_true_iff

theorem everywhere_annotated_iff {inner : TypeExpr} {metadata : List Scalar} :
    (annotated inner metadata).everywhere condition = true ↔
      condition (.annotated inner metadata) = true ∧ inner.everywhere condition = true :=
  Bool.and_eq_true_iff

/-- A condition on all parts is one on the type itself. -/
theorem condition_of_everywhere {t : TypeExpr} (holds : t.everywhere condition = true) :
    condition t = true := by
  cases t with
  | generic | union | annotated | text => exact (Bool.and_eq_true_iff.mp holds).1
  | _ => exact holds

/-! ## The normal form -/

/-- The type stands for itself where it is an argument of a form of the type language. -/
def isArgument : TypeExpr → Bool
  | .none | .text .free _ _ | .brokenText .free _ _ => false
  | _ => true

/-- The type is a member of unions of a spelling, as it is. -/
def isMember (spelling : UnionSpelling) (t : TypeExpr) : Bool :=
  match spelling, t with
  | _, .union _ _ => false
  | .bars, t => t.isArgument && t.joinsByBar
  | .brackets, t => t.isArgument

/-- The members are two or more that a union of the spelling can have, all distinct. -/
structure IsNormalUnion (spelling : UnionSpelling) (members : List TypeExpr) : Prop where
  several : 2 ≤ members.length
  joinable : ∀ t ∈ members, t.isMember spelling = true
  distinct : members.Pairwise fun left right => left.same right = false

instance (spelling : UnionSpelling) (members : List TypeExpr) :
    Decidable (IsNormalUnion spelling members) :=
  decidable_of_iff
    (2 ≤ members.length ∧ (∀ t ∈ members, t.isMember spelling = true) ∧
      members.Pairwise fun left right => left.same right = false)
    ⟨fun parts => ⟨parts.1, parts.2.1, parts.2.2⟩,
      fun normal => ⟨normal.several, normal.joinable, normal.distinct⟩⟩

/-- The type itself is in normal form, whatever its parts are. -/
def isFormedHere : TypeExpr → Bool
  | .generic (.container _) _ => true
  | .generic _ arguments => arguments.all isArgument
  | .union spelling members => decide (IsNormalUnion spelling members)
  | .annotated inner _ => inner.isArgument
  | _ => true

/-- The type and all types that it is built from are in normal form. -/
def isFormed (t : TypeExpr) : Bool :=
  t.everywhere isFormedHere

theorem isArgument_asArgument (t : TypeExpr) : t.asArgument.isArgument = true := by
  cases t with
  | text place | brokenText place => cases place <;> rfl
  | _ => rfl

theorem asArgument_of_isArgument {t : TypeExpr} (isArgument : t.isArgument = true) :
    t.asArgument = t := by
  cases t with
  | text place | brokenText place =>
    cases place with
    | free => cases isArgument
    | argument | annotated => rfl
  | none => cases isArgument
  | _ => rfl

theorem isFormed_asArgument {t : TypeExpr} (formed : t.isFormed = true) :
    t.asArgument.isFormed = true := by
  cases t with
  | text place | brokenText place => cases place <;> exact formed
  | _ => exact formed

theorem isArgument_of_isMember {spelling : UnionSpelling} {t : TypeExpr}
    (isMember : t.isMember spelling = true) : t.isArgument = true := by
  cases spelling <;> cases t <;> simp_all [TypeExpr.isMember]

/-- What can be joined by bars can stand between brackets. -/
theorem isMember_brackets {spelling : UnionSpelling} {t : TypeExpr}
    (isMember : t.isMember spelling = true) : t.isMember .brackets = true := by
  cases spelling <;> cases t <;> simp_all [TypeExpr.isMember]

/-! ## Unions -/

/-- Keeps a type behind those that are kept, unless one of them is the same. -/
def keepNew (kept : List TypeExpr) (t : TypeExpr) : List TypeExpr :=
  if holds kept t then kept else kept ++ [t]

theorem distinct_eq_foldl (types : List TypeExpr) : distinct types = types.foldl keepNew [] := rfl

theorem foldl_keepNew_of_pairwise {kept types : List TypeExpr}
    (pairwise : (kept ++ types).Pairwise fun left right => left.same right = false) :
    types.foldl keepNew kept = kept ++ types := by
  induction types generalizing kept with
  | nil => simp
  | cons t rest ih =>
    have fresh : holds kept t = false := by
      rw [Bool.eq_false_iff]
      intro held
      obtain ⟨member, mem, same⟩ := (holds_iff kept t).mp held
      have apart := (List.pairwise_append.mp pairwise).2.2 member mem t List.mem_cons_self
      rw [same] at apart
      cases apart
    rw [List.foldl_cons, keepNew, fresh, if_neg Bool.false_ne_true, ih (by simpa using pairwise)]
    simp

/-- Distinct types are left as they are. -/
theorem distinct_of_pairwise {types : List TypeExpr}
    (pairwise : types.Pairwise fun left right => left.same right = false) :
    distinct types = types :=
  foldl_keepNew_of_pairwise pairwise

/-- Going on to keep what is new keeps what there is, adds nothing else, and keeps all
distinct. -/
theorem pairwise_foldl_keepNew {kept : List TypeExpr} (types : List TypeExpr)
    (pairwise : kept.Pairwise fun left right => left.same right = false) :
    (types.foldl keepNew kept).Pairwise (fun left right => left.same right = false) ∧
      kept ⊆ types.foldl keepNew kept ∧ types.foldl keepNew kept ⊆ kept ++ types := by
  induction types generalizing kept with
  | nil => simpa using pairwise
  | cons t rest ih =>
    rw [List.foldl_cons, keepNew]
    split
    · obtain ⟨apart, still, among⟩ := ih pairwise
      exact ⟨apart, still, fun s mem => by
        rcases List.mem_append.mp (among mem) with before | later <;> simp [*]⟩
    · next fresh =>
      have extended : (kept ++ [t]).Pairwise fun left right => left.same right = false := by
        refine List.pairwise_append.mpr ⟨pairwise, List.pairwise_singleton _ t, ?_⟩
        intro member mem s isLast
        obtain rfl := List.mem_singleton.mp isLast
        rw [Bool.eq_false_iff]
        exact fun same => fresh ((holds_iff kept s).mpr ⟨member, mem, same⟩)
      obtain ⟨apart, still, among⟩ := ih extended
      exact ⟨apart, fun s mem => still (List.mem_append_left [t] mem), by simpa using among⟩

theorem unionMembers_of_isMember {spelling : UnionSpelling} {t : TypeExpr}
    (isMember : t.isMember spelling = true) : t.unionMembers = [t] := by
  cases t with
  | union => cases spelling <;> cases isMember
  | _ => rfl

theorem flatMap_unionMembers {spelling : UnionSpelling} {members : List TypeExpr}
    (each : ∀ t ∈ members, t.isMember spelling = true) :
    members.flatMap unionMembers = members := by
  induction members with
  | nil => rfl
  | cons t rest ih =>
    obtain ⟨first, others⟩ := List.forall_mem_cons.mp each
    rw [List.flatMap_cons, unionMembers_of_isMember first, ih others]
    rfl

/-- A union of distinct members, when its members are put together to it. -/
theorem unionOf_eq {spelling : UnionSpelling} {types members : List TypeExpr}
    (flat : types.flatMap unionMembers = members) (several : 2 ≤ members.length)
    (pairwise : members.Pairwise fun left right => left.same right = false) :
    unionOf spelling types = .union spelling members := by
  rw [unionOf, flat, distinct_of_pairwise pairwise]
  match members, several with
  | _ :: _ :: _, _ => rfl

theorem barOperand_of_isArgument {t : TypeExpr} (isArgument : t.isArgument = true) :
    t.barOperand = t := by
  cases t with
  | none => cases isArgument
  | _ => rfl

theorem joinsByBar_of_isMember {t : TypeExpr} (isMember : t.isMember .bars = true) :
    t.joinsByBar = true := by
  cases t <;> simp_all [TypeExpr.isMember]

/-- A bar joins two types that it may join. -/
theorem bar_of_joinsByBar {left right : TypeExpr} (isLeft : left.joinsByBar = true)
    (isRight : right.joinsByBar = true) :
    bar left right = unionOf .bars [left.barOperand, right.barOperand] := by
  simp [bar, isLeft, isRight]

/-- A further member is joined to a union. -/
theorem foldl_bar_eq {kept rest : List TypeExpr} (several : 2 ≤ kept.length)
    (members : ∀ t ∈ rest, t.isMember .bars = true)
    (pairwise : (kept ++ rest).Pairwise fun left right => left.same right = false) :
    rest.foldl bar (.union .bars kept) = .union .bars (kept ++ rest) := by
  induction rest generalizing kept with
  | nil => simp
  | cons t rest ih =>
    obtain ⟨isMember, others⟩ := List.forall_mem_cons.mp members
    have longer : (kept ++ [t] ++ rest).Pairwise fun left right => left.same right = false := by
      simpa using pairwise
    have joined : bar (.union .bars kept) t = .union .bars (kept ++ [t]) := by
      rw [bar_of_joinsByBar rfl (joinsByBar_of_isMember isMember),
        barOperand_of_isArgument (isArgument_of_isMember isMember)]
      refine unionOf_eq ?_ (by simp; omega) (List.pairwise_append.mp longer).1
      rw [List.flatMap_cons, List.flatMap_cons, unionMembers_of_isMember isMember]
      rfl
    rw [List.foldl_cons, joined, ih (by simp; omega) others longer]
    simp

/-- A union in normal form comes out as it was when it is formed again. -/
theorem reunite_of_normal {spelling : UnionSpelling} {members : List TypeExpr}
    (normal : IsNormalUnion spelling members) :
    reunite spelling members = .union spelling members := by
  cases spelling with
  | brackets =>
    have unchanged : members.map asArgument = members :=
      (List.map_congr_left (g := id) fun t mem =>
        asArgument_of_isArgument (isArgument_of_isMember (normal.joinable t mem))).trans
        (List.map_id members)
    rw [reunite, bracketUnion, unchanged]
    exact unionOf_eq (flatMap_unionMembers normal.joinable) normal.several normal.distinct
  | bars =>
    match members, normal.several, normal with
    | first :: second :: rest, _, normal =>
      obtain ⟨isFirst, isSecond, isRest⟩ :
          first.isMember .bars = true ∧ second.isMember .bars = true ∧
            ∀ t ∈ rest, t.isMember .bars = true := by
        simpa using normal.joinable
      have pairwise : ([first, second] ++ rest).Pairwise
          fun left right => left.same right = false := normal.distinct
      have pairwise := List.pairwise_append.mp pairwise
      have joined : bar first second = .union .bars [first, second] := by
        rw [bar_of_joinsByBar (joinsByBar_of_isMember isFirst) (joinsByBar_of_isMember isSecond),
          barOperand_of_isArgument (isArgument_of_isMember isFirst),
          barOperand_of_isArgument (isArgument_of_isMember isSecond)]
        have both : ∀ t ∈ [first, second], t.isMember .bars = true := by simp [isFirst, isSecond]
        exact unionOf_eq (flatMap_unionMembers both) (by simp) pairwise.1
      rw [reunite, bars, List.foldl_cons, joined]
      exact foldl_bar_eq (by simp) isRest normal.distinct

/-! ## What is formed is in normal form -/

/-- A container may hold any types, as they are. -/
theorem isFormed_container {arguments : List TypeExpr} (c : Container)
    (formed : ∀ t ∈ arguments, t.isFormed = true) : (container c arguments).isFormed = true := by
  simpa [isFormed, container, everywhere, isFormedHere, everywhereAmong_iff] using formed

/-- Any other head makes arguments of the types that it is applied to. -/
theorem isFormed_applied {arguments : List TypeExpr} (head : Head)
    (formed : ∀ t ∈ arguments, t.isFormed = true) : (applied head arguments).isFormed = true := by
  have parts : ∀ t ∈ arguments.map asArgument, t.everywhere isFormedHere = true := by
    intro t mem
    obtain ⟨argument, isArgument, rfl⟩ := List.mem_map.mp mem
    exact isFormed_asArgument (formed argument isArgument)
  have here : isFormedHere (.generic head (arguments.map asArgument)) = true := by
    cases head <;> simp [isFormedHere, isArgument_asArgument]
  simpa [isFormed, applied, everywhere, here, everywhereAmong_iff] using parts

/-- Annotations join those that a type has. -/
theorem isFormed_annotate {t : TypeExpr} (formed : t.isFormed = true) (metadata : List Scalar) :
    (annotate t metadata).isFormed = true := by
  cases t with
  | annotated inner earlier => exact formed
  | text place source meaning => cases place <;> exact formed
  | brokenText place source error => cases place <;> rfl
  | none => rfl
  | _ =>
    show (true && isFormed _) = true
    exact formed

/-- What a type contributes to a union between brackets can be a member of it. -/
theorem isMember_brackets_of_mem {t m : TypeExpr} (formed : t.isFormed = true)
    (isArgument : t.isArgument = true) (mem : m ∈ t.unionMembers) :
    m.isMember .brackets = true ∧ m.isFormed = true := by
  cases t with
  | union spelling members =>
    obtain ⟨here, parts⟩ := everywhere_union_iff.mp formed
    rw [everywhereAmong_iff] at parts
    exact ⟨isMember_brackets ((of_decide_eq_true here).joinable m mem), parts m mem⟩
  | _ =>
    obtain rfl := List.mem_singleton.mp mem
    exact ⟨isArgument, formed⟩

/-- What a type contributes to a union by a bar can be a member of it. -/
theorem isMember_bars_of_mem {t m : TypeExpr} (formed : t.isFormed = true)
    (joins : t.joinsByBar = true) (mem : m ∈ t.barOperand.unionMembers) :
    m.isMember .bars = true ∧ m.isFormed = true := by
  cases t with
  | union spelling members =>
    cases spelling with
    | brackets => cases joins
    | bars =>
      obtain ⟨here, parts⟩ := everywhere_union_iff.mp formed
      rw [everywhereAmong_iff] at parts
      exact ⟨(of_decide_eq_true here).joinable m mem, parts m mem⟩
  | generic head arguments =>
    cases head with
    | container c =>
      obtain rfl := List.mem_singleton.mp mem
      exact ⟨rfl, formed⟩
    | _ => cases joins
  | named | any | none =>
    obtain rfl := List.mem_singleton.mp mem
    exact ⟨rfl, rfl⟩
  | _ => cases joins

/-- A type contributes something to a union. -/
theorem unionMembers_ne_nil {t : TypeExpr} (formed : t.isFormed = true) :
    t.unionMembers ≠ [] := by
  cases t with
  | union spelling members =>
    have normal : IsNormalUnion spelling members :=
      of_decide_eq_true (everywhere_union_iff.mp formed).1
    rintro rfl
    exact absurd normal.several (by simp)
  | _ => exact List.cons_ne_nil _ _

/-- A union of types that can be members of it is in normal form. -/
theorem isFormed_unionOf {spelling : UnionSpelling} {types : List TypeExpr}
    (notEmpty : types.flatMap unionMembers ≠ [])
    (each : ∀ t ∈ types, ∀ m ∈ t.unionMembers, m.isMember spelling = true ∧ m.isFormed = true) :
    (unionOf spelling types).isFormed = true := by
  have flat : ∀ m ∈ types.flatMap unionMembers,
      m.isMember spelling = true ∧ m.isFormed = true := by
    intro m mem
    obtain ⟨t, memTypes, memMembers⟩ := List.mem_flatMap.mp mem
    exact each t memTypes m memMembers
  have some : distinct (types.flatMap unionMembers) ≠ [] := by
    match types.flatMap unionMembers, notEmpty with
    | first :: rest, _ =>
      have kept := pairwise_foldl_keepNew rest (List.pairwise_singleton _ first)
      exact List.ne_nil_of_mem (kept.2.1 List.mem_cons_self)
  obtain ⟨pairwise, -, among⟩ := pairwise_foldl_keepNew (types.flatMap unionMembers) .nil
  rw [← distinct_eq_foldl] at pairwise among
  rw [unionOf]
  generalize distinct (types.flatMap unionMembers) = members at pairwise among some
  have parts : ∀ m ∈ members, m.isMember spelling = true ∧ m.isFormed = true :=
    fun m mem => flat m (among mem)
  match members, some with
  | [m], _ => exact (parts m List.mem_cons_self).2
  | first :: second :: rest, _ =>
    have normal : IsNormalUnion spelling (first :: second :: rest) :=
      ⟨by simp, fun m mem => (parts m mem).1, pairwise⟩
    refine everywhere_union_iff.mpr ⟨decide_eq_true normal, ?_⟩
    rw [everywhereAmong_iff]
    exact fun m mem => (parts m mem).2

theorem isFormed_bracketUnion {types : List TypeExpr} (some : types ≠ [])
    (formed : ∀ t ∈ types, t.isFormed = true) : (bracketUnion types).isFormed = true := by
  refine isFormed_unionOf ?_ ?_
  · match types, some with
    | first :: rest, _ =>
      have first := unionMembers_ne_nil (isFormed_asArgument (formed first List.mem_cons_self))
      simp [first]
  · intro t mem m contributed
    obtain ⟨given, isGiven, rfl⟩ := List.mem_map.mp mem
    exact isMember_brackets_of_mem (isFormed_asArgument (formed given isGiven))
      (isArgument_asArgument given) contributed

/-- What a bar joins is joined as an argument. -/
theorem barOperand_eq_asArgument {t : TypeExpr} (joins : t.joinsByBar = true) :
    t.barOperand = t.asArgument := by
  cases t with
  | text | brokenText => cases joins
  | _ => rfl

theorem isFormed_bar {left right : TypeExpr} (isLeft : left.isFormed = true)
    (isRight : right.isFormed = true) : (bar left right).isFormed = true := by
  rw [bar]
  split
  · next join =>
    obtain ⟨joinsLeft, joinsRight⟩ := Bool.and_eq_true_iff.mp join
    have operand : left.barOperand.isFormed = true := by
      rw [barOperand_eq_asArgument joinsLeft]
      exact isFormed_asArgument isLeft
    refine isFormed_unionOf (by simp [unionMembers_ne_nil operand]) ?_
    rintro t mem m contributed
    rcases List.mem_cons.mp mem with rfl | isSecond
    · exact isMember_bars_of_mem isLeft joinsLeft contributed
    · obtain rfl := List.mem_singleton.mp isSecond
      exact isMember_bars_of_mem isRight joinsRight contributed
  · exact isFormed_bracketUnion (by simp) (by simp [isLeft, isRight])

end ObjectMapping.TypeExpr
