import Mathlib
import ObjectMapping.Package.Runtime
import ObjectMapping.Proofs.Mapping.Replacing

/-!
# Filling a frozen record in one replacement

Filling a frozen record replaces it property by property. That comes to the same as one
replacement of all matched properties (`mapInto_alike_replaceMatched`) if the code that
runs settles each instance by itself, if reading is steady, and if the first ones of the
properties can be replaced at once as well.

Without these conditions it need not (`not_equalsReplacement`): code behind the constructor
may count how often it runs, or may refuse what is only half set.
-/

namespace ObjectMapping

variable {base : World} {source : Value}

/-- Filling a frozen record with discovered properties comes to the same as replacing all
of them at once, if that is possible for the first ones of them too. -/
theorem mapInto_alike_replaceMatched [Packages] {creating discovering : ClassTable Code}
    {s : Specification} {mapper : Mapper} {discovered : List TargetProperty} {own : Nat}
    {r : Instance} {layout : RecordLayout} {result : Value} {w₁ : World}
    (compiled : (s.create creating).outcome.1 = .ok mapper)
    (isFrozen : Registry.IsFrozenRecord discovering s.target)
    (found : (Registry.standard.targets discovering s.target).outcome.1 = .ok discovered)
    (uses : s.targets ⊆ discovered) (notEmpty : s.targets ≠ []) (noCustoms : s.customs = [])
    (remakes : discovering.Remakes base own r layout)
    (steady : ∀ p ∈ s.sources, (p.reader source).IsSteady base)
    (between : ∀ i, 0 < i → i < s.targets.length → ∃ result w,
      (replaceMatched discovering ((pairsByName s.targets s.sources).take i) (.object own)
        source).Ends base result w)
    (replaced : (replaceMatched discovering (pairsByName s.targets s.sources) (.object own)
      source).Ends base result w₁) :
    ∃ result' w₂, (mapper.mapInto (.object own) source).Ends base result' w₂ ∧
      w₁.heap.Alike w₂.heap result result' := by
  obtain ⟨corresponding, factory, -, rfl⟩ := (s.create_eq_ok_iff creating mapper).mp compiled
  rw [Mapper.mapInto, noCustoms, List.append_nil, corresponding.createSetters_pairsByName]
  have modes := Registry.mode_of_isFrozenRecord isFrozen found
  have replacing : ∀ pair ∈ pairsByName s.targets s.sources,
      pair.target.mode = .replacement discovering.replaceField :=
    fun pair mem => modes _ (uses (corresponding.of_mem_pairsByName mem).1)
  have distinct : ((pairsByName s.targets s.sources).map (·.target.name)).Nodup := by
    rw [corresponding.names_pairsByName]
    exact nodup_names_byName _ corresponding.distinctTargets
  have steadyPairs : ∀ pair ∈ pairsByName s.targets s.sources,
      (pair.source.reader source).IsSteady base :=
    fun pair mem => steady _ (corresponding.of_mem_pairsByName mem).2.1
  have sameLength : (pairsByName s.targets s.sources).length = s.targets.length := by
    have lengths := congrArg List.length corresponding.targets_pairsByName
    rw [List.length_map, (byName_perm _ s.targets).length_eq] at lengths
    exact lengths
  have each : ∀ i, 0 < i → i ≤ (pairsByName s.targets s.sources).length → ∃ result w,
      (replaceMatched discovering ((pairsByName s.targets s.sources).take i) (.object own)
        source).Ends base result w := by
    intro i positive bound
    by_cases isLast : i = (pairsByName s.targets s.sources).length
    · rw [isLast, List.take_length]
      exact ⟨result, w₁, replaced⟩
    · exact between i positive (by omega)
  obtain ⟨place, current, w₂, ended, -, alike⟩ :=
    compose_setters_again remakes replacing distinct steadyPairs each
  have matched : pairsByName s.targets s.sources ≠ [] := by
    intro none
    rw [none] at sameLength
    exact notEmpty (List.length_eq_zero_iff.mp sameLength.symm)
  exact ⟨.object place, w₂, ended, alike matched result w₁ replaced⟩

/-! ## Records with a total -/

open scoped RuntimePackages

/-- The number that is stored, if any. -/
def numberOf : Option Value → Int
  | some (.int n _) => n
  | _ => 0

/-- Code behind a constructor of two numbers that sets a total, if there is one. -/
def settling (total? : Int → Int → Int → Option Int) : Code
  | [.object own] => do
      match ← Run.object? own with
      | some (.record r) =>
          let stored (name : String) : Int := numberOf (Entries.get? r.attributes name)
          match total? (stored "left") (stored "right") (stored "total") with
          | some total => do
              ClassTable.putAttribute own "total" (.number total)
              return .null
          | none => throw .badValue
      | _ => throw .badOperand
  | _ => throw .badCall

/-- A frozen record of two numbers and a total, which may be a parameter or not. -/
def totalLayout (takesTotal : Bool) : RecordLayout where
  fields := [("left", true), ("right", true), ("total", takesTotal)].map fun entry => {
    name := entry.1, kind := .stored, declared := .standard .int, default? := none
    accepted := entry.2, nameOnly := false }
  isFrozen := true
  isSlotted := false
  hasAfterInit := true

/-- The record with its code, and a class that can store anything. -/
def totalClasses (takesTotal : Bool) (total? : Int → Int → Int → Option Int) :
    ClassTable Code where
  classes := #[
    { name := ⟨.declared 0, "sums", "Total", "Total"⟩
      lineage := [.declared 0, .standard .object]
      initializer? := some .record
      afterInit? := some (settling total?)
      guard? := some (.frozenRecord ["left", "right", "total"] false)
      record? := some (totalLayout takesTotal) },
    { name := ⟨.declared 1, "sums", "Pair", "Pair"⟩
      lineage := [.declared 1, .standard .object] }]

/-- A record with a total. -/
def totalRecord (left right total : Int) : Instance where
  classId := .declared 0
  attributes := [("left", .number left), ("right", .number right), ("total", .number total)]

/-- A pair of numbers. -/
def pairRecord : Instance where
  classId := .declared 1
  attributes := [("left", .number 10), ("right", .number 20)]

/-- A given record with its total, a pair to fill it from, and what was made since. -/
def totalWorld (total : Int) (made : List Instance) : World where
  heap := ⟨⟨.record (totalRecord 1 2 total) :: .record pairRecord :: made.map .record⟩⟩

/-- Target properties for numbers of the record. -/
def totalTargets (classes : ClassTable Code) (names : List String) : List TargetProperty :=
  names.mapIdx fun identity name => {
    identity := identity, owner := classes.typeOf (.declared 0), name := name
    type := .standard .int, mode := .replacement classes.replaceField }

/-- The second number of a pair, read as an attribute. -/
def rightOfPair (classes : ClassTable Code) : SourceProperty :=
  .ofAttribute classes 1 (classes.typeOf (.declared 1)) "right" (.standard .int)

/-- The numbers are filled from pairs, the second one from the given property, and the
total is not filled. -/
def totalSpecification (classes : ClassTable Code) (right : ClassTable Code → SourceProperty) :
    Specification where
  target := classes.typeOf (.declared 0)
  source := classes.typeOf (.declared 1)
  targets := totalTargets classes ["left", "right"]
  sources := [
    .ofAttribute classes 0 (classes.typeOf (.declared 1)) "left" (.standard .int), right classes]
  factory? := some (throw .badCall)

/-- The matched properties, in order. -/
def totalPairs (classes : ClassTable Code) (right : ClassTable Code → SourceProperty) :
    List PropertyPair :=
  (totalSpecification classes right).targets.zipWith .mk (totalSpecification classes right).sources

section Totals

variable {takesTotal : Bool} {total? : Int → Int → Int → Option Int}

theorem isFrozenRecord_total :
    Registry.IsFrozenRecord (totalClasses takesTotal total?)
      ((totalClasses takesTotal total?).typeOf (.declared 0)) :=
  ⟨rfl, .declared 0, totalLayout takesTotal, rfl, rfl, rfl⟩

/-- Properties that the constructor takes are discovered. -/
theorem discovered_total :
    (Registry.standard.targets (totalClasses takesTotal total?)
      ((totalClasses takesTotal total?).typeOf (.declared 0))).outcome.1 =
      .ok (totalTargets (totalClasses takesTotal total?)
        (["left", "right"] ++ if takesTotal then ["total"] else [])) := by
  cases takesTotal with
  | false => cbv
  | true => cbv

section Compiling

variable {classes : ClassTable Code} {right : ClassTable Code → SourceProperty}
  (isRight : (right classes).name = "right")

include isRight

theorem pairsByName_total :
    pairsByName (totalSpecification classes right).targets
      (totalSpecification classes right).sources = totalPairs classes right := by
  have targets : byName (·.name) (totalSpecification classes right).targets =
      (totalSpecification classes right).targets :=
    byName_of_ascending _ (by simp [totalSpecification, totalTargets])
  have sources : byName (·.name) (totalSpecification classes right).sources =
      (totalSpecification classes right).sources := by
    refine byName_of_ascending _ ?_
    simp [totalSpecification, SourceProperty.ofAttribute, SourceProperty.declare, isRight]
  rw [pairsByName, targets, sources, totalPairs]

/-- The specification compiles, to a mapper that runs the setters of its pairs. -/
theorem exists_totalMapper (isNumber : (right classes).type = .standard .int) :
    ∃ mapper, ((totalSpecification classes right).create classes).outcome.1 = .ok mapper ∧
      ∀ target source, mapper.mapInto target source =
        compose classes ((totalPairs classes right).map (·.setter classes)) target source := by
  have corresponding : Corresponding (totalSpecification classes right).targets
      (totalSpecification classes right).sources := by
    refine ⟨?_, ?_, ?_, ?_⟩
    · simp [totalSpecification, totalTargets]
    · simp [totalSpecification, SourceProperty.ofAttribute, SourceProperty.declare, isRight]
    · simp [totalSpecification, totalTargets, SourceProperty.ofAttribute, SourceProperty.declare,
        isRight]
    · simp [totalSpecification, totalTargets, SourceProperty.ofAttribute, SourceProperty.declare,
        isRight, isNumber]
      decide
  refine ⟨_, ((totalSpecification classes right).create_eq_ok_iff classes _).mpr
    ⟨corresponding, throw .badCall, rfl, rfl⟩, fun target source => ?_⟩
  rw [Mapper.mapInto, corresponding.createSetters_pairsByName, pairsByName_total isRight]
  rfl

end Compiling

/-! ## Totals that are settled -/

theorem runAfterInit_total (v : Value) :
    (totalClasses takesTotal total?).runAfterInit (.declared 0) v =
      settling total? [v] >>= fun _ => pure () := by
  show Functor.discard (settling total? [v]) = _
  rw [Functor.discard, map_const, Function.comp_apply, ← bind_pure_comp]

/-- The code reads and writes the instance that it is run on. -/
theorem settling_run (total? : Int → Int → Int → Option Int) {own : Nat} {r : Instance} {w : World}
    (found : w.heap.get? own = some (.record r)) :
    (settling total? [.object own]).run.run w =
      match total? (numberOf (Entries.get? r.attributes "left"))
        (numberOf (Entries.get? r.attributes "right"))
        (numberOf (Entries.get? r.attributes "total")) with
      | some total => (.ok .null, { w with
          heap := w.heap.set own (.record {
            r with attributes := Entries.put r.attributes "total" (.number total) }) })
      | none => (.error .badValue, w) := by
  have look := Run.ends_object? own w
  rw [found] at look
  rw [settling, look.run_bind]
  dsimp only
  split
  · next total isTotal =>
    have put := ClassTable.putAttribute_ends "total" (.number total) found
    rw [put.run_bind]
    rfl
  · rfl

/-- Values of the same shape hold the same number. -/
theorem numberOf_congr {a? b? : Option Value}
    (rel : Option.Rel (fun v v' => v.shape = v'.shape) a? b?) : numberOf a? = numberOf b? := by
  cases rel with
  | none => rfl
  | @some v v' shape =>
    cases v <;> cases v' <;> simp [Value.shape] at shape <;> simp [numberOf, shape]

/-- A total that is no parameter is settled for each record by itself. -/
theorem settlesAlone_total :
    (totalClasses false total?).SettlesAlone (totalWorld 3 []) (.declared 0)
      (totalLayout false) where
  own := by
    intro w w' own attributes kept isNew found ended
    rw [runAfterInit_total] at ended
    obtain ⟨v, w'', ended, isLast⟩ := ended.exists_of_bind
    cases isLast
    rw [Run.Ends, settling_run _ found] at ended
    split at ended
    · cases ended
      refine ⟨.written w own _, _, Heap.get?_set_self _ (Heap.lt_next_of_get?_eq_some found), rfl,
        ?_⟩
      intro f mem isParameter
      refine Entries.get?_put_of_ne _ _ ?_
      simp [totalLayout] at mem
      rcases mem with rfl | rfl | rfl <;> simp [RecordField.isParameter] at isParameter ⊢
    · cases ended
  again := by
    intro w₁ w₁' w₂ own own' attributes attributes' filling ended
    have same (name : String) : numberOf (Entries.get? attributes name) =
        numberOf (Entries.get? attributes' name) := by
      refine numberOf_congr (optionRel_mono ?_ (filling.alike name))
      rintro _ _ ⟨_, _, values, -⟩
      exact values.shape
    rw [runAfterInit_total] at ended
    obtain ⟨v, w'', ended, isLast⟩ := ended.exists_of_bind
    cases isLast
    rw [Run.Ends, settling_run _ filling.found] at ended
    simp only [same] at ended
    split at ended
    · next total isTotal =>
      cases ended
      have plain : w₁.heap.AlikeBeside w₂.heap own own' (.number total) (.number total) :=
        ⟨fun _ _ => False, fun _ _ impossible => impossible.elim,
          .self (by simp [Value.number, Value.addresses]), fun _ _ impossible => impossible.elim⟩
      refine ⟨_, ?_, (filling.put "total" plain).alike_instances⟩
      have settled := settling_run total? filling.found'
      simp only [isTotal] at settled
      rw [runAfterInit_total]
      exact Run.Ends.bind settled rfl
    · cases ended

theorem closed_totalWorld : (totalWorld 3 []).heap.Closed := by
  intro address object found v mem
  have numbers : ∀ v ∈ object.values, ∃ n, v = .number n := by
    match address with
    | 0 =>
      obtain rfl : Object.record (totalRecord 1 2 3) = object := Option.some.inj found
      simp [Object.values, totalRecord]
    | 1 =>
      obtain rfl : Object.record pairRecord = object := Option.some.inj found
      simp [Object.values, pairRecord]
    | _ + 2 => cases found
  obtain ⟨n, rfl⟩ := numbers v mem
  exact Value.within_of_plain rfl

/-- No class of the table has anything under any name. -/
theorem owned?_total {c : Nat} (isClass : c < 2) (name : String) :
    (totalClasses takesTotal total?).owned? (.declared c) name = none := by
  match c with
  | 0 => rfl
  | 1 => rfl

theorem readsPlainly_total {c : Nat} (isClass : c < 2) {name : String}
    (uncommon : name ∉ commonAttributes) :
    (totalClasses takesTotal total?).ReadsPlainly (.declared c) name where
  uncommon := uncommon
  passive := by
    intro owner m owned
    rw [owned?_total isClass] at owned
    cases owned

theorem remakes_total :
    (totalClasses false total?).Remakes (totalWorld 3 []) 0 (totalRecord 1 2 3)
      (totalLayout false) where
  found := rfl
  isRecord := rfl
  generates := {
    isFrozen := rfl
    constructor := ⟨_, rfl, rfl⟩
    distinct := by decide
    noInitOnly := by simp [totalLayout]
    plain := by
      intro f mem _
      refine readsPlainly_total (by decide) ?_
      simp [totalLayout] at mem
      rcases mem with rfl | rfl | rfl <;> decide }
  settles := fun _ => settlesAlone_total
  closed := closed_totalWorld
  shared := by
    intro name owner v owned
    cases owned
  defaults := by
    intro f mem d isDefault
    simp [totalLayout] at mem
    rcases mem with rfl | rfl | rfl <;> cases isDefault

theorem steady_total (identity : Nat) (owner declared : TypeExpr) {name : String}
    (isOneName : Text.attributePath name = [name]) (uncommon : name ∉ commonAttributes) :
    ((SourceProperty.ofAttribute (totalClasses takesTotal total?) identity owner name
      declared).reader (.object 1)).IsSteady (totalWorld 3 []) := by
  have found : (totalWorld 3 []).heap.get? 1 = some (.record pairRecord) := rfl
  refine (SourceProperty.ofAttribute_isPure closed_totalWorld found ?_ ?_ isOneName identity
    owner declared).isSteady
  · exact readsPlainly_total (c := 1) (by decide) uncommon
  · intro owner v owned
    cases owned

end Totals

/-- A total that is the sum of both numbers. -/
def sum? (left right _ : Int) : Option Int :=
  some (left + right)

/-- A record is filled with two numbers one after the other, and the total that its code
settles is that of both. -/
theorem mapInto_alike_replaceMatched_sum :
    ∃ mapper result' w₂,
      ((totalSpecification (totalClasses false sum?) rightOfPair).create
        (totalClasses false sum?)).outcome.1 = .ok mapper ∧
      (mapper.mapInto (.object 0) (.object 1)).Ends (totalWorld 3 []) result' w₂ ∧
      (totalWorld 3 [totalRecord 10 20 30]).heap.Alike w₂.heap (.object 2) result' := by
  let classes := totalClasses false sum?
  let s := totalSpecification classes rightOfPair
  have isRight : (rightOfPair classes).name = "right" := rfl
  obtain ⟨mapper, compiled, -⟩ := exists_totalMapper isRight rfl
  have steady : ∀ p ∈ s.sources, (p.reader (.object 1)).IsSteady (totalWorld 3 []) := by
    intro p mem
    simp only [s, totalSpecification, List.mem_cons, List.not_mem_nil, or_false] at mem
    rcases mem with rfl | rfl
    · exact steady_total _ _ _ (by decide) (by decide)
    · exact steady_total _ _ _ (by decide) (by decide)
  have between : ∀ i, 0 < i → i < s.targets.length → ∃ result w,
      (replaceMatched classes ((pairsByName s.targets s.sources).take i) (.object 0)
        (.object 1)).Ends (totalWorld 3 []) result w := by
    intro i positive bound
    have isOne : i = 1 := by
      have two : s.targets.length = 2 := rfl
      omega
    rw [isOne, pairsByName_total isRight]
    exact ⟨.object 2, totalWorld 3 [totalRecord 10 2 12], by cbv⟩
  have replaced : (replaceMatched classes (pairsByName s.targets s.sources) (.object 0)
      (.object 1)).Ends (totalWorld 3 []) (.object 2) (totalWorld 3 [totalRecord 10 20 30]) := by
    rw [pairsByName_total isRight]
    cbv
  obtain ⟨result', w₂, ended, alike⟩ := mapInto_alike_replaceMatched compiled isFrozenRecord_total
    discovered_total (List.Subset.refl _) (by simp [totalSpecification, totalTargets]) rfl
    remakes_total steady between replaced
  exact ⟨mapper, result', w₂, compiled, ended, alike⟩

/-! ## Where it does not come to the same -/

/-- If all matched properties can be replaced at once, then the target can be filled, and
what comes back is alike. -/
def Mapper.EqualsReplacement (mapper : Mapper) (classes : ClassTable Code) (s : Specification)
    (target source : Value) (w : World) : Prop :=
  ∀ result w₁,
    (replaceMatched classes (pairsByName s.targets s.sources) target source).Ends w result w₁ →
    ∃ result' w₂, (mapper.mapInto target source).Ends w result' w₂ ∧
      w₁.heap.Alike w₂.heap result result'

/-- Records of the class are filled otherwise than by one replacement, though only
discovered properties are set. -/
def FillsOtherwise (classes : ClassTable Code) (right : ClassTable Code → SourceProperty) : Prop :=
  ∃ mapper discovered,
    ((totalSpecification classes right).create classes).outcome.1 = .ok mapper ∧
    Registry.IsFrozenRecord classes (totalSpecification classes right).target ∧
    (Registry.standard.targets classes (totalSpecification classes right).target).outcome.1 =
      .ok discovered ∧
    (totalSpecification classes right).targets ⊆ discovered ∧
    ¬ mapper.EqualsReplacement classes (totalSpecification classes right) (.object 0) (.object 1)
      (totalWorld 3 [])

/-- Records that are alike store the same numbers. -/
theorem numberOf_eq_of_alike {heap heap' : Heap} {own own' : Nat} {r r' : Instance}
    (found : heap.get? own = some (.record r)) (found' : heap'.get? own' = some (.record r'))
    (alike : heap.Alike heap' (.object own) (.object own')) (name : String) :
    numberOf (Entries.get? r.attributes name) = numberOf (Entries.get? r'.attributes name) := by
  obtain ⟨object, object', isObject, isObject', objects⟩ := alike.exists_object
  obtain rfl : Object.record r = object := Option.some.inj (found.symm.trans isObject)
  obtain rfl : Object.record r' = object' := Option.some.inj (found'.symm.trans isObject')
  cases objects with
  | record each =>
    exact numberOf_congr (optionRel_mono (fun _ _ values => values.shape) (each.attributes name))

/-- What decides is whether running the setters comes to something else. -/
theorem fillsOtherwise_of_runs {takesTotal : Bool} {total? : Int → Int → Int → Option Int}
    {right : ClassTable Code → SourceProperty}
    (isRight : (right (totalClasses takesTotal total?)).name = "right")
    (isNumber : (right (totalClasses takesTotal total?)).type = .standard .int)
    {result : Value} {w₁ : World}
    (replaced : (replaceMatched (totalClasses takesTotal total?)
      (totalPairs (totalClasses takesTotal total?) right) (.object 0) (.object 1)).Ends
      (totalWorld 3 []) result w₁)
    (otherwise : ∀ result' w₂, (compose (totalClasses takesTotal total?)
      ((totalPairs (totalClasses takesTotal total?) right).map
        (·.setter (totalClasses takesTotal total?))) (.object 0) (.object 1)).Ends
      (totalWorld 3 []) result' w₂ → ¬ w₁.heap.Alike w₂.heap result result') :
    FillsOtherwise (totalClasses takesTotal total?) right := by
  obtain ⟨mapper, compiled, fills⟩ := exists_totalMapper isRight isNumber
  refine ⟨mapper, _, compiled, isFrozenRecord_total, discovered_total, ?_, ?_⟩
  · cases takesTotal with
    | false => exact List.Subset.refl _
    | true => simp [totalSpecification, totalTargets]
  · intro equals
    rw [Mapper.EqualsReplacement, pairsByName_total isRight, fills] at equals
    obtain ⟨result', w₂, ended, alike⟩ := equals result w₁ replaced
    exact otherwise result' w₂ ended alike

/-- A total that counts how often the record was made. -/
def count? (_ _ total : Int) : Option Int :=
  some (total + 1)

/-- The total stays, but the second number has to be double the first one. -/
def double? (left right total : Int) : Option Int :=
  if right = 2 * left then some total else none

/-- The total stays. -/
def same? (_ _ total : Int) : Option Int :=
  some total

/-- A second number of which the reading sets the total of the given record. -/
def writingRight (_ : ClassTable Code) : SourceProperty where
  identity := 1
  owner := .any
  name := "right"
  type := .standard .int
  reader := fun _ => do
    ClassTable.putAttribute 0 "total" (.number 99)
    return .number 20

/-- Filling a frozen record may differ from one replacement: if the code behind its
constructor counts its runs in a field that is kept, if the code refuses what is only half
set, or if reading a value writes the target. -/
theorem not_equalsReplacement :
    FillsOtherwise (totalClasses true count?) rightOfPair ∧
    FillsOtherwise (totalClasses false double?) rightOfPair ∧
    FillsOtherwise (totalClasses true same?) writingRight := by
  refine ⟨?_, ?_, ?_⟩
  · have replaced : (replaceMatched (totalClasses true count?)
        (totalPairs (totalClasses true count?) rightOfPair) (.object 0) (.object 1)).Ends
        (totalWorld 3 []) (.object 2) (totalWorld 3 [totalRecord 10 20 4]) := by cbv
    have filled : (compose (totalClasses true count?)
        ((totalPairs (totalClasses true count?) rightOfPair).map
          (·.setter (totalClasses true count?))) (.object 0) (.object 1)).Ends (totalWorld 3 [])
        (.object 3) (totalWorld 3 [totalRecord 10 2 4, totalRecord 10 20 5]) := by cbv
    refine fillsOtherwise_of_runs rfl rfl replaced fun result' w₂ ended alike => ?_
    obtain ⟨rfl, rfl⟩ := filled.unique ended
    have total := numberOf_eq_of_alike rfl rfl alike "total"
    cases total
  · have replaced : (replaceMatched (totalClasses false double?)
        (totalPairs (totalClasses false double?) rightOfPair) (.object 0) (.object 1)).Ends
        (totalWorld 3 []) (.object 2) (totalWorld 3 [totalRecord 10 20 0]) := by cbv
    have failed : (compose (totalClasses false double?)
        ((totalPairs (totalClasses false double?) rightOfPair).map
          (·.setter (totalClasses false double?))) (.object 0) (.object 1)).run.run
        (totalWorld 3 []) = (.error .badValue, totalWorld 3 [{
          classId := .declared 0
          attributes := [("left", .number 10), ("right", .number 2)] }]) := by cbv
    refine fillsOtherwise_of_runs rfl rfl replaced fun result' w₂ ended _ => ?_
    rw [Run.Ends, failed] at ended
    cases ended
  · have replaced : (replaceMatched (totalClasses true same?)
        (totalPairs (totalClasses true same?) writingRight) (.object 0) (.object 1)).Ends
        (totalWorld 3 []) (.object 2) (totalWorld 99 [totalRecord 10 20 99]) := by cbv
    have filled : (compose (totalClasses true same?)
        ((totalPairs (totalClasses true same?) writingRight).map
          (·.setter (totalClasses true same?))) (.object 0) (.object 1)).Ends (totalWorld 3 [])
        (.object 3) (totalWorld 99 [totalRecord 10 2 3, totalRecord 10 20 3]) := by cbv
    refine fillsOtherwise_of_runs rfl rfl replaced fun result' w₂ ended alike => ?_
    obtain ⟨rfl, rfl⟩ := filled.unique ended
    have total := numberOf_eq_of_alike rfl rfl alike "total"
    cases total

end ObjectMapping
