import Mathlib.Data.Set.Function
import ObjectMapping.Package.Runtime
import ObjectMapping.Proofs.Mapping.Building
import ObjectMapping.Proofs.Mapping.Creation
import ObjectMapping.Proofs.Mapping.Population

/-!
# Mapping under a renaming

Properties are matched by name, and a chain of calls rebinds those whose names
differ on the two sides. Whatever one-to-one renaming the calls follow, and in
whatever order they come, the chain goes through and the mapper fills each target
property from the source property that the renaming assigns to it
(`map_renamed`).

A specification of which some pairs are bound already is `Specification.binding`.
Binding one more pair keeps that form, and what is left unbound corresponds by
name as soon as every property is bound that changes its name.
-/

namespace ObjectMapping

/-- Each target property has a source property of the same type, which may have
another name, and each source property belongs to one target property. -/
structure Specification.RenamedBy (s : Specification) (rename : String → String) : Prop where
  distinctTargets : (s.targets.map (·.name)).Nodup
  distinctSources : (s.sources.map (·.name)).Nodup
  oneToOne : Set.BijOn rename {n | n ∈ s.targets.map (·.name)} {n | n ∈ s.sources.map (·.name)}
  agreeing : ∀ t ∈ s.targets, ∀ p ∈ s.sources, p.name = rename t.name →
    t.type.agrees p.type = true

/-- The target properties that are left when some pairs are bound. -/
def Specification.unboundTargets (s : Specification) (bound : List PropertyPair) :
    List TargetProperty :=
  s.targets.filter fun t => t.name ∉ bound.map (·.target.name)

/-- The source properties that are left when some pairs are bound. -/
def Specification.unboundSources (s : Specification) (bound : List PropertyPair) :
    List SourceProperty :=
  s.sources.filter fun p => p.name ∉ bound.map (·.source.name)

/-- The specification in which some pairs are bound, in order. -/
def Specification.binding [Packages] (classes : ClassTable Code) (s : Specification)
    (bound : List PropertyPair) : Specification := {
  s with
  targets := s.unboundTargets bound
  sources := s.unboundSources bound
  customs := s.customs ++ bound.map (·.setter classes) }

/-- All pairs in the order in which they are set: those that match by name, then
those that are bound. -/
def Specification.pairing (s : Specification) (bound : List PropertyPair) : List PropertyPair :=
  pairsByName (s.unboundTargets bound) (s.unboundSources bound) ++ bound

/-- The call that binds a pair. -/
def PropertyPair.binding (pair : PropertyPair) : PlainCall :=
  .setFromSource pair.target.name pair.source.name

/-- A pair of two properties of a specification, of one type and with names that
belong together. -/
structure Specification.Joins (s : Specification) (rename : String → String)
    (pair : PropertyPair) : Prop where
  target : pair.target ∈ s.targets
  source : pair.source ∈ s.sources
  name : pair.source.name = rename pair.target.name

/-- Among things of distinct names, taking one away takes away its name. -/
theorem filter_without {α : Type} {name : α → String} {isOne : α → α → Bool}
    (itself : ∀ x, isOne x x = true) (sameName : ∀ x y, isOne x y = true → name x = name y)
    {l : List α} (distinct : (l.map name).Nodup) {x : α} (mem : x ∈ l) {names : List String} :
    (l.filter fun y => name y ∉ names).filter (fun y => !isOne y x) =
      l.filter fun y => name y ∉ names ++ [name x] := by
  rw [List.filter_filter]
  refine List.filter_congr ?_
  intro y memY
  by_cases same : name y = name x
  · obtain rfl : y = x := List.inj_on_of_nodup_map distinct memY mem same
    simp [itself]
  · have apart : isOne y x = false := by
      cases one : isOne y x with
      | true => exact absurd (sameName y x one) same
      | false => rfl
    simp [apart, same]

namespace Specification

variable {s : Specification} {bound : List PropertyPair}

theorem mem_unboundTargets_iff (t : TargetProperty) :
    t ∈ s.unboundTargets bound ↔ t ∈ s.targets ∧ t.name ∉ bound.map (·.target.name) := by
  simp [unboundTargets]

theorem mem_unboundSources_iff (p : SourceProperty) :
    p ∈ s.unboundSources bound ↔ p ∈ s.sources ∧ p.name ∉ bound.map (·.source.name) := by
  simp [unboundSources]

theorem withoutTarget_unboundTargets (distinct : (s.targets.map (·.name)).Nodup)
    {pair : PropertyPair} (mem : pair.target ∈ s.targets) :
    withoutTarget (s.unboundTargets bound) pair.target = s.unboundTargets (bound ++ [pair]) := by
  rw [withoutTarget, unboundTargets,
    filter_without (by simp [TargetProperty.isOne]) ?_ distinct mem, unboundTargets,
    List.map_append]
  · rfl
  · intro t t' one
    exact (by simpa [TargetProperty.isOne] using one : _ ∧ t.name = t'.name).2

theorem withoutSource_unboundSources (distinct : (s.sources.map (·.name)).Nodup)
    {pair : PropertyPair} (mem : pair.source ∈ s.sources) :
    withoutSource (s.unboundSources bound) pair.source = s.unboundSources (bound ++ [pair]) := by
  rw [withoutSource, unboundSources,
    filter_without (by simp [SourceProperty.isOne]) ?_ distinct mem, unboundSources,
    List.map_append]
  · rfl
  · intro p p' one
    exact (by simpa [SourceProperty.isOne] using one : _ ∧ p.name = p'.name).2

namespace RenamedBy

variable {classes : ClassTable Code} {rename : String → String}

theorem distinct_unboundTargets (renamed : s.RenamedBy rename) (bound : List PropertyPair) :
    ((s.unboundTargets bound).map (·.name)).Nodup :=
  renamed.distinctTargets.sublist (List.filter_sublist.map _)

theorem distinct_unboundSources (renamed : s.RenamedBy rename) (bound : List PropertyPair) :
    ((s.unboundSources bound).map (·.name)).Nodup :=
  renamed.distinctSources.sublist (List.filter_sublist.map _)

/-- One more bound pair takes away its two properties and adds its setter. -/
theorem binding_append [Packages] (renamed : s.RenamedBy rename) {pair : PropertyPair}
    (joins : s.Joins rename pair) :
    s.binding classes (bound ++ [pair]) = {
      s.binding classes bound with
      targets := withoutTarget (s.unboundTargets bound) pair.target
      sources := withoutSource (s.unboundSources bound) pair.source
      customs := (s.binding classes bound).customs ++
        [pair.target.setter classes pair.source.reader] } := by
  rw [withoutTarget_unboundTargets renamed.distinctTargets joins.target,
    withoutSource_unboundSources renamed.distinctSources joins.source]
  simp only [binding, List.map_append, List.append_assoc]
  rfl

/-- Binding one more pair goes through. -/
theorem perform_binding [Packages] (renamed : s.RenamedBy rename) {pair : PropertyPair}
    (joins : s.Joins rename pair) (freshTarget : pair.target.name ∉ bound.map (·.target.name))
    (freshSource : pair.source.name ∉ bound.map (·.source.name)) :
    (s.binding classes bound).perform classes pair.binding =
      .ok (s.binding classes (bound ++ [pair])) := by
  have found : (s.binding classes bound).targetNamed pair.target.name = .ok pair.target := by
    refine (targetNamed_eq_ok_iff _).mpr ?_
    refine (find?_name_eq_some_iff _ (renamed.distinct_unboundTargets bound) _ _).mpr ?_
    exact ⟨(mem_unboundTargets_iff _).mpr ⟨joins.target, freshTarget⟩, rfl⟩
  have foundSource : (s.binding classes bound).sourceNamed pair.source.name = .ok pair.source := by
    refine (sourceNamed_eq_ok_iff _).mpr ?_
    refine (find?_name_eq_some_iff _ (renamed.distinct_unboundSources bound) _ _).mpr ?_
    exact ⟨(mem_unboundSources_iff _).mpr ⟨joins.source, freshSource⟩, rfl⟩
  have agree := renamed.agreeing _ joins.target _ joins.source joins.name
  rw [renamed.binding_append joins]
  exact (perform_eq_ok_iff _ _ _).mpr (.setFromSource found foundSource agree)

/-- Binding any pairs whose names are new, one after another, goes through. -/
theorem performAll_binding [Packages] (renamed : s.RenamedBy rename) {rest : List PropertyPair}
    (joins : ∀ pair ∈ rest, s.Joins rename pair)
    (distinctTargets : ((bound ++ rest).map (·.target.name)).Nodup)
    (distinctSources : ((bound ++ rest).map (·.source.name)).Nodup) :
    (s.binding classes bound).performAll classes (rest.map (·.binding)) =
      .ok (s.binding classes (bound ++ rest)) := by
  induction rest generalizing bound with
  | nil =>
    rw [List.append_nil]
    rfl
  | cons pair rest ih =>
    have freshTarget : pair.target.name ∉ bound.map (·.target.name) := by
      rw [List.map_append, List.nodup_append] at distinctTargets
      exact fun mem => distinctTargets.2.2 _ mem _ List.mem_cons_self rfl
    have freshSource : pair.source.name ∉ bound.map (·.source.name) := by
      rw [List.map_append, List.nodup_append] at distinctSources
      exact fun mem => distinctSources.2.2 _ mem _ List.mem_cons_self rfl
    have step : (s.binding classes bound).perform classes pair.binding = _ :=
      renamed.perform_binding (joins pair List.mem_cons_self) freshTarget freshSource
    rw [List.append_cons] at distinctTargets distinctSources ⊢
    have later := ih (fun other mem => joins other (List.mem_cons_of_mem _ mem))
      distinctTargets distinctSources
    rw [List.map_cons, performAll, ObjectMapping.performAll, step]
    exact mapError_eq_ok_iff.mpr later

/-- Every target property has its pair. -/
theorem exists_joins (renamed : s.RenamedBy rename) {t : TargetProperty} (mem : t ∈ s.targets) :
    ∃ pair, pair.target.name = t.name ∧ s.Joins rename pair := by
  obtain ⟨p, memP, name⟩ :=
    List.mem_map.mp (renamed.oneToOne.mapsTo (List.mem_map_of_mem (f := (·.name)) mem))
  exact ⟨⟨t, p⟩, rfl, mem, memP, name⟩

/-- Every source property has its pair. -/
theorem exists_joins_source (renamed : s.RenamedBy rename) {p : SourceProperty}
    (mem : p ∈ s.sources) : ∃ pair, pair.source.name = p.name ∧ s.Joins rename pair := by
  obtain ⟨n, memN, name⟩ := renamed.oneToOne.surjOn (List.mem_map_of_mem (f := (·.name)) mem)
  obtain ⟨t, memT, rfl⟩ := List.mem_map.mp memN
  exact ⟨⟨t, p⟩, rfl, memT, mem, name.symm⟩

/-- Pairs with the same source name have the same target name. -/
theorem sameTarget_of_sameSource (renamed : s.RenamedBy rename) {first second : PropertyPair}
    (join : s.Joins rename first) (joinSecond : s.Joins rename second)
    (same : first.source.name = second.source.name) :
    first.target.name = second.target.name := by
  rw [join.name, joinSecond.name] at same
  exact renamed.oneToOne.injOn (List.mem_map_of_mem join.target)
    (List.mem_map_of_mem joinSecond.target) same

/-- The source of a pair is bound exactly when its target is. -/
theorem source_bound_iff (renamed : s.RenamedBy rename)
    (joins : ∀ pair ∈ bound, s.Joins rename pair) {pair : PropertyPair}
    (join : s.Joins rename pair) :
    pair.source.name ∈ bound.map (·.source.name) ↔
      pair.target.name ∈ bound.map (·.target.name) := by
  constructor
  · intro mem
    obtain ⟨other, memOther, same⟩ := List.mem_map.mp mem
    rw [← renamed.sameTarget_of_sameSource (joins other memOther) join same]
    exact List.mem_map_of_mem memOther
  · intro mem
    obtain ⟨other, memOther, same⟩ := List.mem_map.mp mem
    have sameSource : other.source.name = pair.source.name := by
      rw [(joins other memOther).name, join.name, same]
    rw [← sameSource]
    exact List.mem_map_of_mem memOther

/-- The pairs of some target properties, in any order of these. -/
theorem exists_pairs (renamed : s.RenamedBy rename) {order : List String}
    (declared : ∀ n ∈ order, n ∈ s.targets.map (·.name)) :
    ∃ bound : List PropertyPair,
      bound.map (·.target.name) = order ∧ ∀ pair ∈ bound, s.Joins rename pair := by
  induction order with
  | nil => exact ⟨[], rfl, by simp⟩
  | cons n rest ih =>
    obtain ⟨bound, names, joins⟩ := ih fun other mem => declared other (List.mem_cons_of_mem _ mem)
    obtain ⟨t, mem, rfl⟩ := List.mem_map.mp (declared n List.mem_cons_self)
    obtain ⟨pair, name, join⟩ := renamed.exists_joins mem
    refine ⟨pair :: bound, by rw [List.map_cons, name, names], ?_⟩
    intro other memOther
    rcases List.mem_cons.mp memOther with rfl | memOther
    · exact join
    · exact joins other memOther

/-- Pairs of distinct targets have distinct sources. -/
theorem distinct_sources (renamed : s.RenamedBy rename)
    (joins : ∀ pair ∈ bound, s.Joins rename pair)
    (distinct : (bound.map (·.target.name)).Nodup) : (bound.map (·.source.name)).Nodup := by
  refine List.Nodup.map_on ?_ (List.Nodup.of_map _ distinct)
  intro pair mem other memOther same
  exact List.inj_on_of_nodup_map distinct mem memOther
    (renamed.sameTarget_of_sameSource (joins pair mem) (joins other memOther) same)

/-! From here on, each property is bound whose name changes. -/

section Complete

variable (renamed : s.RenamedBy rename) (joins : ∀ pair ∈ bound, s.Joins rename pair)
  (complete : ∀ t ∈ s.targets, rename t.name ≠ t.name → t.name ∈ bound.map (·.target.name))

include complete

/-- The properties that are left keep their names. -/
theorem unchanged_of_unbound {t : TargetProperty} (mem : t ∈ s.targets)
    (unbound : t.name ∉ bound.map (·.target.name)) : rename t.name = t.name := by
  by_contra different
  exact unbound (complete t mem different)

include renamed joins

/-- What is left corresponds by name. -/
theorem corresponding : Corresponding (s.unboundTargets bound) (s.unboundSources bound) where
  distinctTargets := renamed.distinct_unboundTargets bound
  distinctSources := renamed.distinct_unboundSources bound
  sameNames := by
    intro n
    constructor
    · intro mem
      obtain ⟨t, memT, rfl⟩ := List.mem_map.mp mem
      obtain ⟨declared, unbound⟩ := (mem_unboundTargets_iff t).mp memT
      obtain ⟨pair, name, join⟩ := renamed.exists_joins declared
      rw [← name] at unbound ⊢
      rw [← unchanged_of_unbound complete join.target unbound, ← join.name]
      exact List.mem_map_of_mem ((mem_unboundSources_iff _).mpr
        ⟨join.source, (renamed.source_bound_iff joins join).not.mpr unbound⟩)
    · intro mem
      obtain ⟨p, memP, rfl⟩ := List.mem_map.mp mem
      obtain ⟨declared, unboundSource⟩ := (mem_unboundSources_iff p).mp memP
      obtain ⟨pair, name, join⟩ := renamed.exists_joins_source declared
      rw [← name] at unboundSource ⊢
      have unbound := (renamed.source_bound_iff joins join).not.mp unboundSource
      rw [join.name, unchanged_of_unbound complete join.target unbound]
      exact List.mem_map_of_mem ((mem_unboundTargets_iff _).mpr ⟨join.target, unbound⟩)
  agreeing := by
    intro t memT p memP sameName
    obtain ⟨declared, unbound⟩ := (mem_unboundTargets_iff t).mp memT
    refine renamed.agreeing t declared p ((mem_unboundSources_iff p).mp memP).1 ?_
    rw [← sameName, unchanged_of_unbound complete declared unbound]

/-- Each pair that is set joins a target with the source that it is assigned. -/
theorem joins_pairing : ∀ pair ∈ s.pairing bound, s.Joins rename pair := by
  intro pair mem
  rcases List.mem_append.mp mem with matched | mem
  · obtain ⟨memT, memP, sameName⟩ :=
      (renamed.corresponding joins complete).of_mem_pairsByName matched
    obtain ⟨declared, unbound⟩ := (mem_unboundTargets_iff _).mp memT
    refine ⟨declared, ((mem_unboundSources_iff _).mp memP).1, ?_⟩
    rw [← sameName, unchanged_of_unbound complete declared unbound]
  · exact joins pair mem

/-- No target is set twice. -/
theorem distinct_pairing (distinct : (bound.map (·.target.name)).Nodup) :
    ((s.pairing bound).map (·.target.name)).Nodup := by
  have corresponding := renamed.corresponding joins complete
  rw [pairing, List.map_append, List.nodup_append, corresponding.names_pairsByName]
  refine ⟨nodup_names_byName _ corresponding.distinctTargets, distinct, ?_⟩
  rintro n mem other memBound rfl
  obtain ⟨t, memT, rfl⟩ := List.mem_map.mp mem
  exact ((mem_unboundTargets_iff t).mp ((mem_byName_iff _ _ _).mp memT)).2 memBound

/-- Every target is set. -/
theorem mem_pairing {t : TargetProperty} (mem : t ∈ s.targets) :
    t.name ∈ (s.pairing bound).map (·.target.name) := by
  have corresponding := renamed.corresponding joins complete
  rw [pairing, List.map_append, List.mem_append, corresponding.names_pairsByName]
  by_cases memBound : t.name ∈ bound.map (·.target.name)
  · exact .inr memBound
  · refine .inl (List.mem_map_of_mem ((mem_byName_iff _ _ _).mpr ?_))
    exact (mem_unboundTargets_iff t).mpr ⟨mem, memBound⟩

/-- The specification compiles, and its mapper sets all pairs in order. -/
theorem create_binding [Packages] {factory : Factory} (explicit : s.factory? = some factory)
    (plain : s.customs = []) :
    ((s.binding classes bound).create classes).outcome.1 = .ok {
      factory := factory
      transform := compose classes ((s.pairing bound).map (·.setter classes)) } := by
  have corresponding := renamed.corresponding joins complete
  have chosen : (s.binding classes bound).chosenFactory classes = .ok factory := by
    simp only [chosenFactory, binding, explicit]
  rw [create_outcome, compileWith_eq_ok_iff]
  refine ⟨corresponding, factory, chosen, ?_⟩
  show _ = Mapper.mk factory (compose classes
    (createSetters classes (pairsByName (s.unboundTargets bound) (s.unboundSources bound)) ++
      (s.customs ++ bound.map (·.setter classes))))
  rw [corresponding.createSetters_pairsByName, plain, List.nil_append, pairing, List.map_append]

end Complete

end RenamedBy

theorem binding_nil [Packages] (classes : ClassTable Code) (s : Specification) :
    s.binding classes [] = s := by
  simp [binding, unboundTargets, unboundSources]

end Specification

/-- Whatever one-to-one renaming a chain of calls follows, in whatever order: no call
fails, the specification compiles, and the mapper gives each target property the
value of the source property that it is assigned, and leaves all other attributes
as the factory set them. -/
theorem map_renamed [Packages] (classes : ClassTable Code) (s : Specification) (factory : Factory)
    (rename : String → String) (order : List String) (renamed : s.RenamedBy rename)
    (explicit : s.factory? = some factory) (plain : s.customs = []) (distinct : order.Nodup)
    (declared : ∀ n ∈ order, n ∈ s.targets.map (·.name))
    (complete : ∀ t ∈ s.targets, rename t.name ≠ t.name → t.name ∈ order) :
    ∃ built mapper,
      s.performAll classes (order.map fun n => .setFromSource n (rename n)) = .ok built ∧
      (built.create classes).outcome.1 = .ok mapper ∧
      ∀ (source : Value) (before : World) (made : MadeTarget) (touched : List Nat)
        (alike : Value → Value → Prop) (value : String → Value),
        factory.Ends before (.object made.address) made.world →
        (∀ t ∈ s.targets, t.WritesPlainly classes made touched) →
        (∀ p ∈ s.sources, p.ReadsPurely made touched source (alike · (value p.name))) →
        ∃ address r after, (mapper.map source).Ends before (.object address) after ∧
          made.Filled classes (s.targets.map (·.name)) (fun n v => alike v (value (rename n)))
            after address r := by
  obtain ⟨bound, rfl, joins⟩ := renamed.exists_pairs declared
  have calls : (bound.map (·.target.name)).map (fun n => .setFromSource n (rename n)) =
      bound.map (·.binding) := by
    rw [List.map_map]
    refine List.map_congr_left ?_
    intro pair mem
    rw [PropertyPair.binding, (joins pair mem).name]
    rfl
  have built : (s.binding classes []).performAll classes (bound.map (·.binding)) =
      .ok (s.binding classes ([] ++ bound)) :=
    renamed.performAll_binding joins distinct (renamed.distinct_sources joins distinct)
  rw [s.binding_nil classes, List.nil_append] at built
  refine ⟨_, _, calls ▸ built, renamed.create_binding joins complete explicit plain, ?_⟩
  intro source before made touched alike value produced writes reads
  have joined := renamed.joins_pairing joins complete
  obtain ⟨address, r, after, filled, reaches, set, others⟩ :=
    setters_end (fun n => (alike · (value n)))
      (renamed.distinct_pairing joins complete distinct)
      (fun pair mem => writes _ (joined pair mem).target)
      (fun pair mem => reads _ (joined pair mem).source)
      (MadeTarget.Reaches.start made touched)
  refine ⟨address, r, after, produced.bind filled, reaches.filled ?_ ?_⟩
  · intro n mem
    obtain ⟨t, memT, rfl⟩ := List.mem_map.mp mem
    obtain ⟨pair, memPair, name⟩ := List.mem_map.mp (renamed.mem_pairing joins complete memT)
    obtain ⟨v, stored, isValue⟩ := set pair memPair
    rw [(joined pair memPair).name, name] at isValue
    exact ⟨v, name ▸ stored, isValue⟩
  · intro n absent
    refine others n ?_
    intro set
    obtain ⟨pair, memPair, rfl⟩ := List.mem_map.mp set
    exact absent (List.mem_map_of_mem (joined pair memPair).target)

open scoped RuntimePackages

/-- Two properties exchange their names while a third keeps its own, and an attribute
that is not mapped stays as it was made. -/
theorem map_renamed_of_exchange :
    let reader (name : String) : Reader := fun source =>
      ({} : ClassTable Code).readAttribute source name
    let sourceRecord : Instance := {
      classId := .declared 0
      attributes := [("name", .text "Ada"), ("title", .text "Lady"), ("city", .text "London")] }
    let targetRecord : Instance := {
      classId := .declared 1
      attributes := [("name", .null), ("title", .null), ("city", .null), ("age", .number 36)] }
    let s : Specification := {
      target := .any
      source := .any
      targets := ["name", "title", "city"].map fun n => {
        identity := 0, owner := .any, name := n, type := .standard .str, mode := .assignment }
      sources := ["name", "title", "city"].map fun n => {
        identity := 0, owner := .any, name := n, type := .standard .str, reader := reader n }
      factory? := some (Run.allocate (.record targetRecord)) }
    let before : World := { heap := ⟨#[.record sourceRecord]⟩ }
    ∃ built mapper,
      s.performAll {} [.setFromSource "title" "name", .setFromSource "name" "title"] = .ok built ∧
      (built.create {}).outcome.1 = .ok mapper ∧
      ∃ address r after, (mapper.map (.object 0)).Ends before (.object address) after ∧
        after.heap.get? address = some (.record r) ∧
        Entries.get? r.attributes "name" = some (.text "Lady") ∧
        Entries.get? r.attributes "title" = some (.text "Ada") ∧
        Entries.get? r.attributes "city" = some (.text "London") ∧
        Entries.get? r.attributes "age" = some (.number 36) := by
  intro reader sourceRecord targetRecord s before
  let rename (n : String) : String :=
    if n = "name" then "title" else if n = "title" then "name" else n
  have names : ∀ n, n ∈ s.targets.map (·.name) ↔ n = "name" ∨ n = "title" ∨ n = "city" := by
    simp [s]
  have renamed : s.RenamedBy rename := {
    distinctTargets := by decide
    distinctSources := by decide
    oneToOne := by
      refine ⟨?_, ?_, ?_⟩
      · intro n mem
        rcases (names n).mp mem with rfl | rfl | rfl <;> simp [rename, s]
      · intro n mem n' mem' same
        rcases (names n).mp mem with rfl | rfl | rfl <;>
          rcases (names n').mp mem' with rfl | rfl | rfl <;> simp_all [rename]
      · intro n mem
        rcases (names n).mp mem with rfl | rfl | rfl
        · exact ⟨"title", by simp [s], rfl⟩
        · exact ⟨"name", by simp [s], rfl⟩
        · exact ⟨"city", by simp [s], rfl⟩
    agreeing := by
      intro t memT p memP _
      obtain ⟨_, _, rfl⟩ := List.mem_map.mp memT
      obtain ⟨_, _, rfl⟩ := List.mem_map.mp memP
      rfl }
  let made : MadeTarget := {
    world := { before with heap := before.heap.allocate (.record targetRecord) }
    address := 1
    original := targetRecord
    found := rfl }
  have complete : ∀ t ∈ s.targets, rename t.name ≠ t.name → t.name ∈ ["title", "name"] := by
    intro t mem changes
    rcases (names t.name).mp (List.mem_map_of_mem mem) with same | same | same <;>
      simp_all [rename]
  obtain ⟨built, mapper, performed, created, mapped⟩ :=
    map_renamed {} s (Run.allocate (.record targetRecord)) rename ["title", "name"] renamed rfl
      rfl (by decide) (by simp [s]) complete
  have uncommon : ∀ n ∈ ["name", "title", "city"], n ∉ commonAttributes := by decide
  have writes : ∀ t ∈ s.targets, t.WritesPlainly {} made [1] := by
    intro t mem
    obtain ⟨n, memN, rfl⟩ := List.mem_map.mp mem
    exact .inPlace rfl (ClassTable.storesPlainly_of_undeclared 1 (uncommon n memN))
  let value (n : String) : Value := (Entries.get? sourceRecord.attributes n).getD .null
  have reads : ∀ p ∈ s.sources, p.ReadsPurely made [1] (.object 0) (· = value p.name) := by
    intro p mem
    obtain ⟨n, memN, rfl⟩ := List.mem_map.mp mem
    have plain : (({} : ClassTable Code).changed made.world.changes).ReadsPlainly
        sourceRecord.classId n :=
      (ClassTable.storesPlainly_of_undeclared 0 (uncommon n memN)).toReadsPlainly
    have stored : Entries.get? sourceRecord.attributes n = some (value n) := by
      simp only [List.mem_cons, List.not_mem_nil, or_false] at memN
      rcases memN with rfl | rfl | rfl <;> rfl
    exact SourceProperty.readsPurely_of_stored {} rfl rfl (by simp) plain stored rfl
  obtain ⟨address, r, after, ended, filled⟩ :=
    mapped (.object 0) before made [1] Eq value rfl writes reads
  refine ⟨built, mapper, performed, created, address, r, after, ended, filled.found, ?_⟩
  obtain ⟨_, name, rfl⟩ := filled.stored "name" ((names _).mpr (by simp))
  obtain ⟨_, title, rfl⟩ := filled.stored "title" ((names _).mpr (by simp))
  obtain ⟨_, city, rfl⟩ := filled.stored "city" ((names _).mpr (by simp))
  exact ⟨name, title, city, filled.kept "age" (by simp [s])⟩

end ObjectMapping
