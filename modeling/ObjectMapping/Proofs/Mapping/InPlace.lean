import Mathlib
import ObjectMapping.Proofs.Mapping.Sparing
import ObjectMapping.Proofs.Package.Runtime

/-!
# Filling a given target in place or not at all

Setters that store attributes work on the given target; one that replaces the
target leaves it alone, and all setters behind it work on the object that has taken
its place. So a given target is either what comes back, or it is as it was when
the first replacement began (`mapInto_in_place_or_spared`). Only a model of
which some fields are frozen and others are not can have been written by then.

This holds where the code that runs spares the target unless it is run on it. Code
behind a constructor may well write any object that it can reach.
-/

namespace ObjectMapping

variable {target : Value} {creating discovering : ClassTable Code}

/-- The property is written by storing an attribute. -/
def TargetProperty.isAssigned (t : TargetProperty) : Bool :=
  match t.mode with
  | .assignment => true
  | _ => false

theorem TargetProperty.isAssigned_iff (t : TargetProperty) :
    t.isAssigned = true ↔ t.mode = .assignment := by
  rw [isAssigned]
  cases t.mode <;> simp

section Spared

variable [Packages]

/-- The matched properties before the first one that replaces the target. -/
def Specification.pairsInPlace (s : Specification) : List PropertyPair :=
  (pairsByName s.targets s.sources).takeWhile (·.target.isAssigned)

/-- The type is a model that can be changed, except for some of its fields. -/
def ClassTable.IsPartlyFrozen (classes : ClassTable Code) (type : TypeExpr) : Prop :=
  ∃ c layout, type.classId? = some c ∧ classes.modelLayout? c = some layout ∧
    layout.isFrozen = false ∧ (∃ f ∈ layout.fields, f.isFrozen = true) ∧
    ∃ f ∈ layout.fields, f.isFrozen = false

/-- Where some pairs replace the target, a type that is not partly frozen has none that
do not, so that nothing is set in place. -/
theorem pairsInPlace_eq_nil {s : Specification} {discovered : List TargetProperty}
    (written : DiscoveredTargets discovering s.target discovered)
    (listed : ∀ pair ∈ pairsByName s.targets s.sources, pair.target ∈ discovered)
    (replaced : ∃ pair ∈ pairsByName s.targets s.sources, pair.target.mode ≠ .assignment)
    (uniform : ¬ discovering.IsPartlyFrozen s.target) : s.pairsInPlace = [] := by
  rw [Specification.pairsInPlace]
  cases pairs : pairsByName s.targets s.sources with
  | nil => rfl
  | cons pair rest =>
  rw [pairs] at listed replaced
  refine List.takeWhile_cons_of_neg fun assigned => ?_
  rw [TargetProperty.isAssigned_iff] at assigned
  have first := listed pair List.mem_cons_self
  obtain ⟨other, isPair, notAssigned⟩ := replaced
  cases written with
  | inPlace each => exact notAssigned (each _ (listed _ isPair))
  | record _ _ _ each =>
    rw [(each _ first).1] at assigned
    cases assigned
  | @model c layout isClass isModel each =>
    obtain ⟨f, isField, -, mode⟩ := each _ first
    obtain ⟨g, isOther, -, modeOther⟩ := each _ (listed _ isPair)
    rw [mode] at assigned
    rw [modeOther] at notAssigned
    have unfrozen : (layout.isFrozen || f.isFrozen) = false := by
      cases frozen : layout.isFrozen || f.isFrozen with
      | false => rfl
      | true => simp [frozen] at assigned
    have frozen : (layout.isFrozen || g.isFrozen) = true := by
      cases frozen : layout.isFrozen || g.isFrozen with
      | false => simp [frozen] at notAssigned
      | true => rfl
    simp only [Bool.or_eq_false_iff] at unfrozen
    rw [unfrozen.1, Bool.false_or] at frozen
    exact uniform ⟨c, layout, isClass, isModel, unfrozen.1, ⟨g, isOther, frozen⟩,
      ⟨f, isField, unfrozen.2⟩⟩

theorem DiscoveredTargets.isDiscovered {type : TypeExpr} {discovered : List TargetProperty}
    (written : DiscoveredTargets discovering type discovered) {t : TargetProperty}
    (mem : t ∈ discovered) : t.mode.IsDiscovered discovering := by
  cases written with
  | inPlace each =>
    rw [each t mem]
    exact .assigned
  | record _ _ _ each =>
    rw [(each t mem).1]
    exact .remade
  | model _ _ each =>
    obtain ⟨f, -, -, mode⟩ := each t mem
    rw [mode]
    split
    · exact .copied
    · exact .assigned

section Filling

variable {source : Value} {pairs : List PropertyPair}
  (created : creating.CodeSpares target) (discovered : discovering.CodeSpares target)
  (modes : ∀ pair ∈ pairs, pair.target.mode.IsDiscovered discovering)
  (reads : ∀ pair ∈ pairs, (pair.source.reader source).Spares target)

include created discovered modes reads

/-- Setters that all replace the target spare it. -/
theorem spared_of_replacing {current result : Value} {w w' : World}
    (made : target.IsBefore w.heap.next)
    (replacing : ∀ pair ∈ pairs, pair.target.mode ≠ .assignment)
    (ended : (compose creating (pairs.map (·.setter creating)) current source).Ends w result w') :
    w'.heap.attributesOf target = w.heap.attributesOf target := by
  let attributes? := w.heap.attributesOf target
  have concerns := World.Shows.concernsAttributes target attributes?
  have plain : ∀ pair ∈ pairs, pair.IsPlain (World.Shows target attributes?) discovering source :=
    fun pair mem => ⟨modes pair mem, reads pair mem attributes?⟩
  have preserved := preserves_compose concerns (created.spares attributes?)
    (discovered.spares attributes?) plain
    (fun pair mem assigned => absurd assigned (replacing pair mem)) current
  exact (preserved.of_ends ended ⟨made, rfl⟩).attributes

/-- Setters that make changed copies begin a copy with the first one, and all setters
behind it work on that copy. -/
theorem spared_of_copying_first (lawful : Packages.CopiesModels) {pair : PropertyPair}
    {others : List PropertyPair}
    (isFirst : pairs = pair :: others) {current result : Value} {w w' : World}
    (made : target.IsBefore w.heap.next)
    (copies : pair.target.mode = .replacement discovering.copyWithUpdate)
    (ended : (compose creating (pairs.map (·.setter creating)) current source).Ends w result w') :
    w'.heap.attributesOf target = w.heap.attributesOf target := by
  subst isFirst
  let attributes? := w.heap.attributesOf target
  have concerns := World.Shows.concernsAttributes target attributes?
  have plain : ∀ other ∈ pair :: others,
      other.IsPlain (World.Shows target attributes?) discovering source :=
    fun other mem => ⟨modes other mem, reads other mem attributes?⟩
  obtain ⟨plainFirst, plainRest⟩ := List.forall_mem_cons.mp plain
  rw [compose_setters_cons] at ended
  obtain ⟨copy, w₁, first, later⟩ := ended.exists_of_bind
  have shows : World.Shows target attributes? w₁ := by
    refine Run.Preserves.of_ends ?_ first ⟨made, rfl⟩
    exact pair.preserves_setter concerns (created.spares _) (discovered.spares _) plainFirst
      fun assigned => by simp [copies] at assigned
  obtain ⟨address, rfl, isFree⟩ :=
    pair.copying_setter_yields (discovered.spares attributes?) plainFirst lawful copies current w
      copy w₁ ⟨made, rfl⟩ first
  have preserved := preserves_compose_of_free concerns (created.spares attributes?)
    (discovered.spares attributes?) plainRest isFree
  exact (preserved.of_ends later shows).attributes

/-- Setters that store attributes or make changed copies go on with the target that they
are given, or spare it from the first copy on. -/
theorem eq_or_spared_of_copying (lawful : Packages.CopiesModels) {result : Value} {w w' : World}
    (made : target.IsBefore w.heap.next)
    (copying : ∀ pair ∈ pairs, pair.target.mode = .assignment ∨
      pair.target.mode = .replacement discovering.copyWithUpdate)
    (ended : (compose creating (pairs.map (·.setter creating)) target source).Ends w result w') :
    result = target ∨ ∃ w₁,
      (compose creating ((pairs.takeWhile (·.target.isAssigned)).map (·.setter creating)) target
        source).Ends w target w₁ ∧
      w'.heap.attributesOf target = w₁.heap.attributesOf target := by
  have split := pairs.takeWhile_append_dropWhile (p := (·.target.isAssigned))
  rw [← split, compose_setters_append] at ended
  obtain ⟨v, w₁, inPlace, later⟩ := ended.exists_of_bind
  have inPairs : pairs.takeWhile (·.target.isAssigned) ⊆ pairs :=
    (List.takeWhile_sublist _).subset
  have behind : pairs.dropWhile (·.target.isAssigned) ⊆ pairs :=
    (List.dropWhile_sublist _).subset
  have assigned : ∀ pair ∈ pairs.takeWhile (·.target.isAssigned),
      pair.target.mode = .assignment := by
    intro pair mem
    have holds : pair.target.isAssigned = true :=
      List.mem_takeWhile_imp (p := fun pair : PropertyPair => pair.target.isAssigned) mem
    exact pair.target.isAssigned_iff.mp holds
  obtain rfl : v = target := eq_of_compose_ends assigned inPlace
  cases rest : pairs.dropWhile (·.target.isAssigned) with
  | nil =>
    rw [rest] at later
    cases later
    exact .inl rfl
  | cons pair others =>
    refine .inr ⟨w₁, inPlace, ?_⟩
    -- Code may have changed the target by now, but it is still older than all that is
    -- made from now on.
    have still : v.IsBefore w₁.heap.next := by
      have plain : ∀ pair ∈ pairs.takeWhile (·.target.isAssigned),
          pair.IsPlain (fun w => v.IsBefore w.heap.next) discovering source :=
        fun pair mem =>
          ⟨modes pair (inPairs mem), (reads pair (inPairs mem)).preserves_made⟩
      have preserved := preserves_compose v.concernsAttributes_isBefore created.keeps
        discovered.keeps plain (fun _ _ _ _ => trivial) v
      exact preserved.of_ends inPlace made
    have notAssigned : pair.target.isAssigned = false := by
      have dropped := List.head_dropWhile_not (·.target.isAssigned) (l := pairs) (by simp [rest])
      simpa only [rest, List.head_cons] using dropped
    have mem : pair ∈ pairs := behind (by simp [rest])
    have copies : pair.target.mode = .replacement discovering.copyWithUpdate := by
      rcases copying pair mem with assigned | copies
      · rw [pair.target.isAssigned_iff.mpr assigned] at notAssigned
        cases notAssigned
      · exact copies
    exact spared_of_copying_first created discovered (fun other mem => modes other (behind mem))
      (fun other mem => reads other (behind mem)) lawful rest still copies later

/-- Setters of discovered properties go on with the target that they are given, or spare it
from the first one on that replaces it. -/
theorem eq_or_spared_of_discovered (lawful : Packages.CopiesModels) {type : TypeExpr}
    {listed : List TargetProperty} (written : DiscoveredTargets discovering type listed)
    (uses : ∀ pair ∈ pairs, pair.target ∈ listed) {result : Value} {w w' : World}
    (made : target.IsBefore w.heap.next)
    (ended : (compose creating (pairs.map (·.setter creating)) target source).Ends w result w') :
    result = target ∨ ∃ w₁,
      (compose creating ((pairs.takeWhile (·.target.isAssigned)).map (·.setter creating)) target
        source).Ends w target w₁ ∧
      w'.heap.attributesOf target = w₁.heap.attributesOf target := by
  cases written with
  | inPlace each =>
    exact .inl (eq_of_compose_ends (fun pair mem => each _ (uses pair mem)) ended)
  | record _ _ _ each =>
    have replacing : ∀ pair ∈ pairs, pair.target.mode ≠ .assignment := by
      intro pair mem
      simp [(each _ (uses pair mem)).1]
    have nothing : pairs.takeWhile (·.target.isAssigned) = [] := by
      refine List.takeWhile_eq_nil_iff.mpr fun bound => ?_
      rw [TargetProperty.isAssigned_iff]
      exact replacing _ (List.get_mem _ _)
    rw [nothing]
    exact .inr ⟨w, Run.ends_pure _ w,
      spared_of_replacing created discovered modes reads made replacing ended⟩
  | model _ _ each =>
    refine eq_or_spared_of_copying created discovered modes reads lawful made ?_ ended
    intro pair mem
    obtain ⟨f, -, -, mode⟩ := each _ (uses pair mem)
    rw [mode]
    split
    · exact .inr rfl
    · exact .inl rfl

end Filling

end Spared

/-! ## A model that is partly frozen -/

open scoped RuntimePackages

/-- A model of which one field is frozen and the other is not. -/
def albumLayout : ModelLayout where
  fields := [
    { name := "code", type := .standard .str, default? := none, isFrozen := false },
    { name := "title", type := .standard .str, default? := none, isFrozen := true }]
  isFrozen? := none
  computed := []
  concealed := []
  classLevel := []

/-- The model, and a class that can store anything. -/
def albumClasses : ClassTable Code where
  classes := #[
    { name := ⟨.declared 0, "music", "Album", "Album"⟩
      lineage := [.declared 0, .standard .modelBase, .standard .object]
      initializer? := some .model
      guard? := some .model
      model? := some albumLayout },
    { name := ⟨.declared 1, "music", "Entry", "Entry"⟩
      lineage := [.declared 1, .standard .object] }]

/-- An album with a code and without a title. -/
def newAlbum (code : String) : Instance where
  classId := .declared 0
  attributes := [("code", .text code), ("title", .text "")]
  isPrepared := true

/-- A given album, and an entry to fill it from. -/
def albumWorld (code : String) : World where
  heap := ⟨#[
    .record (newAlbum code),
    .record {
      classId := .declared 1
      attributes := [("code", .text "new"), ("title", .text "Blue")] }]⟩

/-- Albums are filled from entries, attribute by attribute. -/
def albumSpecification : Specification where
  target := albumClasses.typeOf (.declared 0)
  source := albumClasses.typeOf (.declared 1)
  targets := [
    { identity := 0, owner := albumClasses.typeOf (.declared 0), name := "code"
      type := .standard .str, mode := .assignment },
    { identity := 1, owner := albumClasses.typeOf (.declared 0), name := "title"
      type := .standard .str, mode := .replacement albumClasses.copyWithUpdate }]
  sources := ["code", "title"].map fun name =>
    .ofAttribute albumClasses 0 (albumClasses.typeOf (.declared 1)) name (.standard .str)
  factory? := some (throw .badCall)

/-- The properties of an album are discovered, the first in place and the second not. -/
theorem discovered_album :
    (Registry.standard.targets albumClasses albumSpecification.target).outcome.1 =
      .ok albumSpecification.targets := rfl

theorem pairsByName_album : pairsByName albumSpecification.targets albumSpecification.sources =
    albumSpecification.targets.zipWith .mk albumSpecification.sources := by
  have targets : byName (·.name) albumSpecification.targets = albumSpecification.targets :=
    byName_of_ascending _ (by decide)
  have sources : byName (·.name) albumSpecification.sources = albumSpecification.sources :=
    byName_of_ascending _ (by decide)
  rw [pairsByName, targets, sources]

/-- The code is stored in the given album, and then a copy takes its place. -/
theorem exists_albumMapper : ∃ mapper w',
    (albumSpecification.create albumClasses).outcome.1 = .ok mapper ∧
    (mapper.mapInto (.object 0) (.object 1)).Ends (albumWorld "old") (.object 2) w' ∧
    w'.heap.get? 0 = some (.record (newAlbum "new")) := by
  have corresponding : Corresponding albumSpecification.targets albumSpecification.sources := by
    refine ⟨by decide, by decide, ?_, ?_⟩
    · simp [albumSpecification, SourceProperty.ofAttribute, SourceProperty.declare]
    · simp [albumSpecification, SourceProperty.ofAttribute, SourceProperty.declare]
      decide
  have compiled := (albumSpecification.create_eq_ok_iff albumClasses _).mpr
    ⟨corresponding, throw .badCall, rfl, rfl⟩
  have isModel : (albumClasses.writeAttribute (.object 0) "code" (.text "new")).run.run
      (albumWorld "old") =
      (albumClasses.storeModel albumLayout (newAlbum "old") 0 "code" (.text "new")
        (albumClasses.storeUnguarded (.object 0) "code" (.text "new"))).run.run
        (albumWorld "old") := rfl
  have stored : (albumClasses.writeAttribute (.object 0) "code" (.text "new")).Ends
      (albumWorld "old") () (albumWorld "new") :=
    isModel.trans (ClassTable.storeModel_ends _ (.text "new") rfl rfl rfl (by simp) rfl rfl rfl rfl)
  have first : (Stage.returningTarget albumClasses
      (PropertyPair.setter albumClasses
        ⟨albumSpecification.targets[0], albumSpecification.sources[0]⟩) (.object 0)
      (.object 1)).Ends (albumWorld "old") (.object 0) (albumWorld "new") :=
    Run.Ends.bind (Run.Ends.bind rfl (stored.bind rfl)) rfl
  have both : ∃ w', (compose albumClasses
      ((albumSpecification.targets.zipWith .mk albumSpecification.sources).map
        (PropertyPair.setter albumClasses ·))
      (.object 0) (.object 1)).Ends (albumWorld "old") (.object 2) w' ∧
      w'.heap.get? 0 = some (.record (newAlbum "new")) :=
    ⟨_, first.bind rfl, rfl⟩
  obtain ⟨w', ended, found⟩ := both
  refine ⟨_, w', compiled, ?_, found⟩
  rw [Mapper.mapInto, corresponding.createSetters_pairsByName, pairsByName_album]
  exact ended

/-- A frozen record with code behind its constructor, which writes the first object. -/
def stampClasses : ClassTable Code where
  classes := #[
    { name := ⟨.declared 0, "post", "Stamp", "Stamp"⟩
      lineage := [.declared 0, .standard .object]
      initializer? := some .record
      afterInit? := some fun _ => do
        ClassTable.putAttribute 0 "price" (.number 5)
        return .null
      guard? := some (.frozenRecord ["price"] false)
      record? := some {
        fields := [{
          name := "price", kind := .stored, declared := .standard .int, default? := none
          accepted := true, nameOnly := false }]
        isFrozen := true
        isSlotted := false
        hasAfterInit := true } }]

/-- Stamps are filled with a price. -/
def stampSpecification : Specification where
  target := stampClasses.typeOf (.declared 0)
  source := .any
  targets := [{
    identity := 0, owner := stampClasses.typeOf (.declared 0), name := "price"
    type := .standard .int, mode := .replacement stampClasses.replaceField }]
  sources := [{
    identity := 0, owner := .any, name := "price", type := .standard .int
    reader := fun _ => return .number 7 }]
  factory? := some (throw .badCall)

/-- A given stamp. -/
def stampWorld : World where
  heap := ⟨#[.record { classId := .declared 0, attributes := [("price", .number 1)] }]⟩

theorem discovered_stamp :
    (Registry.standard.targets stampClasses stampSpecification.target).outcome.1 =
      .ok stampSpecification.targets := by cbv

/-- A new stamp takes the place of the given one, and making it writes the given one. -/
theorem exists_stampMapper : ∃ mapper w',
    (stampSpecification.create stampClasses).outcome.1 = .ok mapper ∧
    (mapper.mapInto (.object 0) .null).Ends stampWorld (.object 1) w' ∧
    w'.heap.attributesOf (.object 0) = some [("price", .number 5)] := by
  have corresponding : Corresponding stampSpecification.targets stampSpecification.sources := by
    refine ⟨by decide, by decide, by simp [stampSpecification], ?_⟩
    simp [stampSpecification]
    decide
  have compiled := (stampSpecification.create_eq_ok_iff stampClasses _).mpr
    ⟨corresponding, throw .badCall, rfl, rfl⟩
  have pairs : pairsByName stampSpecification.targets stampSpecification.sources =
      stampSpecification.targets.zipWith .mk stampSpecification.sources := by
    simp [pairsByName, byName, stampSpecification]
  have replaced : ∃ w', (compose stampClasses
      ((stampSpecification.targets.zipWith .mk stampSpecification.sources).map
        (PropertyPair.setter stampClasses ·)) (.object 0) .null).Ends stampWorld (.object 1) w' ∧
      w'.heap.attributesOf (.object 0) = some [("price", .number 5)] :=
    ⟨_, rfl, rfl⟩
  obtain ⟨w', ended, changed⟩ := replaced
  refine ⟨_, w', compiled, ?_, changed⟩
  rw [Mapper.mapInto, corresponding.createSetters_pairsByName, pairs]
  exact ended

/-- Filling the target gives the target itself or leaves its attributes as they were. -/
def Mapper.FillsInPlaceOrNot (mapper : Mapper) (target source : Value) (w : World) : Prop :=
  ∀ result w', (mapper.mapInto target source).Ends w result w' →
    result = target ∨ w'.heap.attributesOf target = w.heap.attributesOf target

end ObjectMapping
