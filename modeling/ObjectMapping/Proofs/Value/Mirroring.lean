import Mathlib.Logic.Relator
import ObjectMapping.Proofs.Value.Likeness

/-!
# Runs that can be repeated

A run is pure if it comes to the same whenever it is run: it writes no object that
there was, and what it makes in one world corresponds one to one to what it makes in
another (`Run.IsPure`). Objects that there were before correspond to themselves only, so
results that mirror each other hold the very same older objects, and share the new ones
in the same way.

Runs of this kind that each make an object do not disturb each other: after any number of
them, each object is still what its run makes alone (`Run.MakesFresh.separateResults`).
-/

namespace ObjectMapping

/-- Two runs since a base, from two worlds to two others, have made objects that
correspond one to one. -/
structure Twins (base u u' w w' : World) (related : Nat → Nat → Prop) : Prop where
  since : base.Keeps [] u
  since' : base.Keeps [] u'
  kept : u.Keeps [] w
  kept' : u'.Keeps [] w'
  isMatched : w.heap.Matches w'.heap related
  oneToOne : Relator.BiUnique related
  /-- Objects of the base correspond to themselves, and others were made by the runs. -/
  origin : ∀ a b, related a b →
    a = b ∧ a < base.heap.next ∨ u.heap.next ≤ a ∧ u'.heap.next ≤ b

/-- Whenever it is run, a run makes the same, and writes no object that there was. -/
def Run.IsPure (base : World) (run : Run Value) : Prop :=
  ∀ ⦃u u' w v⦄, base.Keeps [] u → base.Keeps [] u' → run.Ends u v w →
    ∃ v' w' related, run.Ends u' v' w' ∧ Twins base u u' w w' related ∧ v.AlikeBy related v'

/-- A pure run that makes a new instance. -/
structure Run.MakesFresh (base : World) (made : Instance → Prop) (run : Run Value) : Prop where
  isPure : run.IsPure base
  isNew : ∀ ⦃u w v⦄, base.Keeps [] u → run.Ends u v w →
    ∃ own r, v = .object own ∧ u.heap.next ≤ own ∧ w.heap.get? own = some (.record r) ∧ made r

/-- A value of one world is like one of another, and their objects correspond one to
one. Those that a base has are the same. -/
def World.Mirrors (base w w' : World) (v v' : Value) : Prop :=
  ∃ related, w.heap.Matches w'.heap related ∧ v.AlikeBy related v' ∧
    Relator.BiUnique related ∧
    ∀ a b, related a b → a < base.heap.next ∨ b < base.heap.next → a = b

variable {base u u' w w' z z' : World} {related later : Nat → Nat → Prop}

/-! ## Corresponding objects -/

/-- What is like an object is an object that corresponds to it. -/
theorem Value.AlikeBy.exists_object {own : Nat} {v : Value}
    (alike : (Value.object own).AlikeBy related v) :
    ∃ own', v = .object own' ∧ related own own' := by
  obtain ⟨shape, addresses⟩ := alike
  cases v with
  | object own' => exact ⟨own', rfl, (List.forall₂_cons.mp addresses).1⟩
  | _ => cases shape

theorem World.Mirrors.alike {v v' : Value} (mirrors : base.Mirrors w w' v v') :
    w.heap.Alike w'.heap v v' := by
  obtain ⟨related, isMatched, alike, -⟩ := mirrors
  exact ⟨related, isMatched, alike⟩

namespace Twins

/-- Corresponding objects have been made. -/
theorem lt_next (twins : Twins base u u' w w' related) {a b : Nat} (isRelated : related a b) :
    a < w.heap.next ∧ b < w'.heap.next := by
  obtain ⟨_, _, found, found', -⟩ := twins.isMatched a b isRelated
  exact ⟨Heap.lt_next_of_get?_eq_some found, Heap.lt_next_of_get?_eq_some found'⟩

/-- More objects correspond after two further runs, as long as these are new. -/
theorem extend (twins : Twins base u u' w w' related) (kept : w.Keeps [] z) (kept' : w'.Keeps [] z')
    (oneToOne : Relator.BiUnique later)
    (origin : ∀ a b, later a b →
      a = b ∧ a < base.heap.next ∨ w.heap.next ≤ a ∧ w'.heap.next ≤ b)
    (isMatched : ∀ a b, later a b → ∃ object object', z.heap.get? a = some object ∧
      z'.heap.get? b = some object' ∧
      object.AlikeBy (fun a b => related a b ∨ later a b) object') :
    Twins base u u' z z' fun a b => related a b ∨ later a b := by
  have old := twins.since.growing
  have old' := twins.since'.growing
  have grown := twins.kept.growing
  have grown' := twins.kept'.growing
  -- An object corresponds both before and since then only if the base has it.
  have apart {a b a' b' : Nat} (before : related a b) (after : later a' b')
      (same : a = a' ∨ b = b') : a = b ∧ a' = b' := by
    have bound := twins.lt_next before
    have first := twins.origin a b before
    have second := origin a' b' after
    omega
  refine {
    since := twins.since
    since' := twins.since'
    kept := twins.kept.trans kept
    kept' := twins.kept'.trans kept'
    isMatched := ?_
    oneToOne := ⟨?_, ?_⟩
    origin := ?_ }
  · rintro a b (before | after)
    · obtain ⟨object, object', found, found', objects⟩ := twins.isMatched a b before
      exact ⟨object, object', kept.found found, kept'.found found',
        objects.mono fun _ _ isRelated => .inl isRelated⟩
    · exact isMatched a b after
  · rintro a b c (first | first) (second | second)
    · exact twins.oneToOne.1 first second
    · obtain ⟨rfl, rfl⟩ := apart first second (.inr rfl)
      rfl
    · obtain ⟨rfl, rfl⟩ := apart second first (.inr rfl)
      rfl
    · exact oneToOne.1 first second
  · rintro a b c (first | first) (second | second)
    · exact twins.oneToOne.2 first second
    · obtain ⟨rfl, rfl⟩ := apart first second (.inl rfl)
      rfl
    · obtain ⟨rfl, rfl⟩ := apart second first (.inl rfl)
      rfl
    · exact oneToOne.2 first second
  · rintro a b (before | after)
    · exact twins.origin a b before
    · rcases origin a b after with same | ⟨isNew, isNew'⟩
      · exact .inl same
      · exact .inr ⟨by omega, by omega⟩

/-- Two runs behind two runs. -/
theorem append (twins : Twins base u u' w w' related) (rest : Twins base w w' z z' later) :
    Twins base u u' z z' fun a b => related a b ∨ later a b := by
  refine twins.extend rest.kept rest.kept' rest.oneToOne rest.origin fun a b isLater => ?_
  obtain ⟨object, object', found, found', objects⟩ := rest.isMatched a b isLater
  exact ⟨object, object', found, found', objects.mono fun _ _ isRelated => .inr isRelated⟩

/-- Two new objects that are alike correspond. -/
theorem make (twins : Twins base u u' w w' related) (kept : w.Keeps [] z) (kept' : w'.Keeps [] z')
    {own own' : Nat} (isNew : w.heap.next ≤ own) (isNew' : w'.heap.next ≤ own')
    {object object' : Object} (found : z.heap.get? own = some object)
    (found' : z'.heap.get? own' = some object') (objects : object.AlikeBy related object') :
    Twins base u u' z z' fun a b => related a b ∨ a = own ∧ b = own' := by
  refine twins.extend kept kept' ⟨?_, ?_⟩ ?_ ?_
  · exact fun _ _ _ first second => first.1.trans second.1.symm
  · exact fun _ _ _ first second => first.2.trans second.2.symm
  · rintro a b ⟨rfl, rfl⟩
    exact .inr ⟨isNew, isNew'⟩
  · rintro a b ⟨rfl, rfl⟩
    exact ⟨object, object', found, found', objects.mono fun _ _ => .inl⟩

/-- Two new objects, written with what is alike, still correspond to each other only. -/
theorem write (twins : Twins base u u' w w' related) {own own' : Nat} (targets : related own own')
    (isNew : u.heap.next ≤ own) (isNew' : u'.heap.next ≤ own') {r r' : Instance}
    (alike : r.AlikeBy related r') :
    Twins base u u' { w with heap := w.heap.set own (.record r) }
      { w' with heap := w'.heap.set own' (.record r') } related := by
  obtain ⟨made, made'⟩ := twins.lt_next targets
  refine {
    since := twins.since
    since' := twins.since'
    kept := twins.kept.trans_new isNew (World.Keeps.written w own _)
    kept' := twins.kept'.trans_new isNew' (World.Keeps.written w' own' _)
    isMatched := ?_
    oneToOne := twins.oneToOne
    origin := twins.origin }
  intro a b isRelated
  by_cases same : own = a
  · subst same
    obtain rfl := twins.oneToOne.2 targets isRelated
    exact ⟨_, _, Heap.get?_set_self _ made, Heap.get?_set_self _ made', .record alike⟩
  · have same' : own' ≠ b := by
      rintro rfl
      exact same (twins.oneToOne.1 targets isRelated)
    obtain ⟨object, object', found, found', objects⟩ := twins.isMatched a b isRelated
    exact ⟨object, object', by rwa [Heap.get?_set_ne _ same], by rwa [Heap.get?_set_ne _ same'],
      objects⟩

/-- Values of two runs mirror each other, also after further runs that keep all objects. -/
theorem mirrors (twins : Twins base u u' w w' related) {v v' : Value}
    (alike : v.AlikeBy related v') (kept : w.Keeps [] z) (kept' : w'.Keeps [] z') :
    base.Mirrors z z' v v' := by
  refine ⟨related, twins.isMatched.later kept kept' fun _ _ _ => ?_, alike, twins.oneToOne, ?_⟩
  · exact ⟨List.not_mem_nil, List.not_mem_nil⟩
  · intro a b isRelated ofBase
    have old := twins.since.growing
    have old' := twins.since'.growing
    have isOrigin := twins.origin a b isRelated
    omega

end Twins

/-- Objects of the base correspond to themselves in all worlds that keep them. -/
theorem Heap.Closed.twins_self (closed : base.heap.Closed) (since : base.Keeps [] u)
    (since' : base.Keeps [] u') : Twins base u u' u u' fun a b => a = b ∧ a < base.heap.next where
  since := since
  since' := since'
  kept := .refl [] u
  kept' := .refl [] u'
  isMatched := closed.matches_self since since'
  oneToOne := ⟨fun _ _ _ first second => first.1.trans second.1.symm,
    fun _ _ _ first second => first.1.symm.trans second.1⟩
  origin := fun _ _ same => .inl same

/-! ## Pure runs -/

namespace Run

variable {run : Run Value}

/-- A pure run writes no object that there was. -/
theorem IsPure.keeps (isPure : run.IsPure base) (since : base.Keeps [] u) {v : Value}
    (ended : run.Ends u v w) : u.Keeps [] w := by
  obtain ⟨_, _, _, -, twins, -⟩ := isPure since since ended
  exact twins.kept

/-- It does not matter when a pure run is run. -/
theorem IsPure.succeeds (isPure : run.IsPure base) (since : base.Keeps [] u)
    (since' : base.Keeps [] u') (succeeds : run.Succeeds u) : run.Succeeds u' := by
  obtain ⟨v, w, ended⟩ := succeeds
  obtain ⟨v', w', _, ended', -, -⟩ := isPure since since' ended
  exact ⟨v', w', ended'⟩

/-- A run that always answers the same value of the base, without effect, is pure. -/
theorem isPure_of_run {outcome : Except Fault Value} (closed : base.heap.Closed)
    (runs : ∀ w, base.Keeps [] w → run.run.run w = (outcome, w))
    (within : ∀ v, outcome = .ok v → v.Within base.heap.next) : run.IsPure base := by
  intro u u' w v since since' ended
  rw [Ends, runs u since] at ended
  obtain ⟨rfl, rfl⟩ := Prod.mk.inj ended
  exact ⟨v, u', _, runs u' since', closed.twins_self since since',
    .self fun address mem => ⟨rfl, within v rfl address mem⟩⟩

/-- Making an instance that holds values of the base is pure. -/
theorem makesFresh_allocate (closed : base.heap.Closed) {made : Instance → Prop} {r : Instance}
    (isMade : made r) (within : ∀ v ∈ (Object.record r).values, v.Within base.heap.next) :
    (allocate (.record r)).MakesFresh base made where
  isPure := by
    intro u u' w v since since' ended
    cases ended
    have objects : (Object.record r).AlikeBy (fun a b => a = b ∧ a < base.heap.next) (.record r) :=
      .self fun v mem address isInner => ⟨rfl, within v mem address isInner⟩
    exact ⟨.object u'.heap.next, _, _, ends_allocate _ u',
      (closed.twins_self since since').make (.allocated u _) (.allocated u' _) (Nat.le_refl _)
        (Nat.le_refl _) (Heap.get?_allocate_next _ _) (Heap.get?_allocate_next _ _) objects,
      .object (.inr ⟨rfl, rfl⟩)⟩
  isNew := by
    intro u w v since ended
    cases ended
    exact ⟨u.heap.next, r, rfl, Nat.le_refl _, Heap.get?_allocate_next _ _, isMade⟩

end Run

/-! ## One run after another -/

/-- What runs have made one after another since a world: each a new instance of its own,
which still is what its run makes alone, with the base as it is. No object that there
was has changed. -/
structure SeparateResults {α : Type} (base start : World) (run : α → Run Value) (items : List α)
    (results : List Value) (w : World) : Prop where
  distinct : results.Nodup
  isNew : ∀ result ∈ results, ∃ own r, result = .object own ∧ start.heap.next ≤ own ∧
    w.heap.get? own = some (.record r)
  each : List.Forall₂ (fun item result =>
    ∃ alone z, (run item).Ends base alone z ∧ base.Mirrors w z result alone) items results
  kept : start.Keeps [] w

namespace Run.MakesFresh

variable {α : Type} {made : Instance → Prop} {run : α → Run Value} {items : List α}
  (fresh : ∀ item ∈ items, (run item).MakesFresh base made)

include fresh

/-- Runs that each make an object do not disturb each other. -/
theorem separateResults (since : base.Keeps [] u) {results : List Value}
    (ended : (items.mapM run).Ends u results w) :
    SeparateResults base u run items results w := by
  induction items generalizing u results with
  | nil =>
    cases ended
    exact ⟨.nil, by simp, .nil, .refl [] _⟩
  | cons item rest ih =>
    obtain ⟨freshFirst, freshRest⟩ := List.forall_mem_cons.mp fresh
    rw [List.mapM_cons] at ended
    obtain ⟨result, u₁, first, ended⟩ := ended.exists_of_bind
    obtain ⟨others, w', later, isResult⟩ := ended.exists_of_bind
    cases isResult
    obtain ⟨own, r, rfl, isNew, found, -⟩ := freshFirst.isNew since first
    have kept := freshFirst.isPure.keeps since first
    have separate := ih freshRest (since.trans kept) later
    obtain ⟨alone, z, _, endedAlone, twins, alike⟩ :=
      freshFirst.isPure since (.refl [] base) first
    refine {
      distinct := List.nodup_cons.mpr ⟨fun again => ?_, separate.distinct⟩
      isNew := List.forall_mem_cons.mpr
        ⟨⟨own, r, rfl, isNew, separate.kept.found found⟩, fun other mem => ?_⟩
      each := .cons ⟨alone, z, endedAlone, twins.mirrors alike separate.kept (.refl [] z)⟩
        separate.each
      kept := kept.trans separate.kept }
    · -- Later results are at addresses that were free then.
      obtain ⟨own', _, isOwn, isLater, -⟩ := separate.isNew _ again
      obtain rfl : own = own' := Value.object.inj isOwn
      have made := Heap.lt_next_of_get?_eq_some found
      omega
    · obtain ⟨own', r', isOwn, isLater, found'⟩ := separate.isNew other mem
      exact ⟨own', r', isOwn, Nat.le_trans kept.growing isLater, found'⟩

/-- All of them succeed one after another exactly if each of them does alone. -/
theorem mapM_succeeds_iff (since : base.Keeps [] u) :
    (items.mapM run).Succeeds u ↔ ∀ item ∈ items, (run item).Succeeds base := by
  induction items generalizing u with
  | nil => simpa using (Run.ends_pure [] u).succeeds
  | cons item rest ih =>
    obtain ⟨freshFirst, freshRest⟩ := List.forall_mem_cons.mp fresh
    rw [List.mapM_cons, List.forall_mem_cons]
    constructor
    · rintro ⟨results, w, ended⟩
      obtain ⟨result, u₁, first, ended⟩ := ended.exists_of_bind
      obtain ⟨others, w', later, -⟩ := ended.exists_of_bind
      have kept := freshFirst.isPure.keeps since first
      exact ⟨freshFirst.isPure.succeeds since (.refl [] base) first.succeeds,
        (ih freshRest (since.trans kept)).mp later.succeeds⟩
    · rintro ⟨succeeds, others⟩
      obtain ⟨result, u₁, first⟩ := freshFirst.isPure.succeeds (.refl [] base) since succeeds
      have kept := freshFirst.isPure.keeps since first
      obtain ⟨results, w, later⟩ := (ih freshRest (since.trans kept)).mpr others
      exact ⟨_, w, first.bind (later.bind (Run.ends_pure _ _))⟩

end Run.MakesFresh

end ObjectMapping
