import ObjectMapping.Mapping.Composition
import ObjectMapping.Package.Runtime
import ObjectMapping.Proofs.Mapping.Matching

/-!
# Pairs of corresponding properties

Where two lists of properties correspond, their orders by name run in parallel:
the names at each place are the same (`Corresponding.names_byName_eq`). So the
pairs that are made place by place join properties of one name, they use up both
lists, and their setters run in the order in which they were made.

`matchProperties_joinsAll` is the account of this that starts from the check
alone: what the check accepts is joined without a remainder, and each property
is in exactly one pair (`JoinsAll`).
-/

namespace ObjectMapping

variable {targets : List TargetProperty} {sources : List SourceProperty}

/-- The stage that writes the target property of a pair with what the source
property reads. -/
def PropertyPair.setter [Packages] (classes : ClassTable Code) (pair : PropertyPair) : Stage :=
  pair.target.setter classes pair.source.reader

/-- Code of its own writes the property, which is given the reader. -/
def TargetMode.takesReader : TargetMode → Bool
  | .custom _ _ => true
  | .assignment | .replacement _ => false

theorem TargetProperty.write_of_assignment [Packages] (t : TargetProperty)
    (mode : t.mode = .assignment) (classes : ClassTable Code) (target source v : Value) :
    t.write classes target source v =
      classes.writeAttribute target t.name v >>= fun _ => pure target := by
  simp only [write, setter, mode, pure_bind]

theorem TargetProperty.write_of_replacement [Packages] (t : TargetProperty)
    {replacer : Value → String → Value → Run Value} (mode : t.mode = .replacement replacer)
    (classes : ClassTable Code) (target source v : Value) :
    t.write classes target source v = replacer target t.name v := by
  simp only [write, setter, mode, pure_bind]

/-- Where no code of its own does it, the value is read once and then written. -/
theorem TargetProperty.setter_eq_write [Packages] {t : TargetProperty}
    (plain : t.mode.takesReader = false) (classes : ClassTable Code) (reader : Reader)
    (target source : Value) :
    t.setter classes reader target source = reader source >>= t.write classes target source := by
  obtain ⟨identity, owner, name, type, mode⟩ := t
  cases mode with
  | assignment | replacement =>
    refine congrArg (reader source >>= ·) (funext fun v => ?_)
    simp only [write, setter, pure_bind]
  | custom => cases plain

/-- The properties of two lists joined place by place in the order of their names. -/
def pairsByName (targets : List TargetProperty) (sources : List SourceProperty) :
    List PropertyPair :=
  (byName (·.name) targets).zipWith PropertyPair.mk (byName (·.name) sources)

/-- Joins two lists place by place, and refuses lists of different lengths. -/
def zipStrictly? {α β γ : Type} (join : α → β → γ) : List α → List β → Option (List γ)
  | [], [] => some []
  | a :: left, b :: right => (zipStrictly? join left right).map (join a b :: ·)
  | _, _ => none

/-- Lists of one length are not refused. -/
theorem zipStrictly?_of_length_eq {α β γ : Type} (join : α → β → γ) {left : List α}
    {right : List β} (sameLength : left.length = right.length) :
    zipStrictly? join left right = some (left.zipWith join right) := by
  induction left generalizing right with
  | nil =>
    obtain rfl := List.eq_nil_of_length_eq_zero sameLength.symm
    rfl
  | cons a left ih =>
    cases right with
    | nil => simp at sameLength
    | cons b right =>
      have shorter : left.length = right.length := by simpa using sameLength
      simp [zipStrictly?, ih shorter]

theorem matchProperties_eq_ok_iff (pairs : List PropertyPair) :
    matchProperties targets sources = .ok pairs ↔
      Corresponding targets sources ∧ pairs = pairsByName targets sources := by
  rw [← validateMapping_eq_ok_iff, matchProperties]
  cases validateMapping targets sources with
  | error e => simp [bind, Except.bind]
  | ok _ => simp [bind, Except.bind, pure, Except.pure, pairsByName, eq_comm]

theorem matchProperties_eq_error_iff (e : MappingError) :
    matchProperties targets sources = .error e ↔ MatchingFault targets sources e := by
  rw [← validateMapping_eq_error_iff, matchProperties]
  cases validateMapping targets sources with
  | error e => simp [bind, Except.bind]
  | ok _ => simp [bind, Except.bind, pure, Except.pure]

/-- In the order of names, corresponding lists have the same name at each place. -/
theorem Corresponding.names_byName_eq (corresponding : Corresponding targets sources) :
    (byName (·.name) targets).map (·.name) = (byName (·.name) sources).map (·.name) := by
  refine List.Perm.eq_of_pairwise (fun _ _ _ _ => String.le_antisymm)
    (List.pairwise_map.mpr (byName_ascending _ targets))
    (List.pairwise_map.mpr (byName_ascending _ sources)) ?_
  refine (List.perm_ext_iff_of_nodup
    (nodup_names_byName _ corresponding.distinctTargets)
    (nodup_names_byName _ corresponding.distinctSources)).mpr ?_
  intro n
  rw [((byName_perm _ targets).map _).mem_iff, ((byName_perm _ sources).map _).mem_iff]
  exact corresponding.sameNames n

/-- Lists of the same names, joined place by place, give pairs of one name. -/
theorem sameName_of_mem_zipWith {left : List TargetProperty} {right : List SourceProperty}
    (sameNames : left.map (·.name) = right.map (·.name)) {pair : PropertyPair}
    (mem : pair ∈ left.zipWith PropertyPair.mk right) :
    pair.target ∈ left ∧ pair.source ∈ right ∧ pair.target.name = pair.source.name := by
  induction left generalizing right with
  | nil => simp at mem
  | cons t left ih =>
    cases right with
    | nil => simp at mem
    | cons s right =>
      simp only [List.map_cons, List.cons.injEq] at sameNames
      rcases List.mem_cons.mp mem with rfl | later
      · exact ⟨List.mem_cons_self, List.mem_cons_self, sameNames.1⟩
      · obtain ⟨memT, memS, sameName⟩ := ih sameNames.2 later
        exact ⟨List.mem_cons_of_mem _ memT, List.mem_cons_of_mem _ memS, sameName⟩

/-- Lists of the same names, joined place by place, lose nothing of the first. -/
theorem map_target_zipWith {left : List TargetProperty} {right : List SourceProperty}
    (sameNames : left.map (·.name) = right.map (·.name)) :
    (left.zipWith PropertyPair.mk right).map (·.target) = left := by
  induction left generalizing right with
  | nil => rfl
  | cons t left ih =>
    cases right with
    | nil => simp at sameNames
    | cons s right =>
      simp only [List.map_cons, List.cons.injEq] at sameNames
      rw [List.zipWith_cons_cons, List.map_cons, ih sameNames.2]

/-- Lists of the same names, joined place by place, lose nothing of the second. -/
theorem map_source_zipWith {left : List TargetProperty} {right : List SourceProperty}
    (sameNames : left.map (·.name) = right.map (·.name)) :
    (left.zipWith PropertyPair.mk right).map (·.source) = right := by
  induction left generalizing right with
  | nil => simpa using sameNames.symm
  | cons t left ih =>
    cases right with
    | nil => rfl
    | cons s right =>
      simp only [List.map_cons, List.cons.injEq] at sameNames
      rw [List.zipWith_cons_cons, List.map_cons, ih sameNames.2]

namespace Corresponding

variable (corresponding : Corresponding targets sources)

include corresponding

/-- A pair joins a target and a source property of one name. -/
theorem of_mem_pairsByName {pair : PropertyPair} (mem : pair ∈ pairsByName targets sources) :
    pair.target ∈ targets ∧ pair.source ∈ sources ∧ pair.target.name = pair.source.name := by
  obtain ⟨memT, memS, sameName⟩ :=
    sameName_of_mem_zipWith corresponding.names_byName_eq mem
  exact ⟨(mem_byName_iff _ _ _).mp memT, (mem_byName_iff _ _ _).mp memS, sameName⟩

/-- The targets of the pairs are all targets in the order of their names. -/
theorem targets_pairsByName :
    (pairsByName targets sources).map (·.target) = byName (·.name) targets :=
  map_target_zipWith corresponding.names_byName_eq

/-- The sources of the pairs are all sources in the order of their names. -/
theorem sources_pairsByName :
    (pairsByName targets sources).map (·.source) = byName (·.name) sources :=
  map_source_zipWith corresponding.names_byName_eq

/-- In the order of names nothing is left over on either side. -/
theorem zipStrictly?_byName :
    zipStrictly? PropertyPair.mk (byName (·.name) targets) (byName (·.name) sources) =
      some (pairsByName targets sources) := by
  apply zipStrictly?_of_length_eq
  simpa using congrArg List.length corresponding.names_byName_eq

theorem names_pairsByName :
    (pairsByName targets sources).map (·.target.name) = (byName (·.name) targets).map (·.name) := by
  rw [← corresponding.targets_pairsByName, List.map_map]
  rfl

/-- The pairs come in the order of their names, so that their setters keep it. -/
theorem createSetters_pairsByName [Packages] (classes : ClassTable Code) :
    createSetters classes (pairsByName targets sources) =
      (pairsByName targets sources).map (·.setter classes) := by
  have ascending : (pairsByName targets sources).Pairwise fun left right =>
      left.target.name ≤ right.target.name := by
    have sorted := byName_ascending (·.name) targets
    rw [← corresponding.targets_pairsByName] at sorted
    rwa [List.pairwise_map] at sorted
  rw [createSetters, byName_of_ascending _ ascending]
  rfl

/-- No two pairs have one name, so that their order by name is strict. -/
theorem pairsByName_ascending :
    (pairsByName targets sources).Pairwise fun left right =>
      left.target.name < right.target.name := by
  have sorted := byName_ascending TargetProperty.name targets
  have distinct := nodup_names_byName TargetProperty.name corresponding.distinctTargets
  rw [← corresponding.targets_pairsByName, List.pairwise_map] at sorted
  rw [← corresponding.targets_pairsByName, List.map_map, List.Nodup, List.pairwise_map]
    at distinct
  refine sorted.imp₂ ?_ distinct
  intro left right below apart
  exact String.not_le.mp fun above => apart (String.le_antisymm below above)

end Corresponding

/-- The pairs of two lists of properties use up both lists. They come in the
strict order of their names, each joins properties of one name and one type, and
each property is in exactly one of them. -/
structure JoinsAll (targets : List TargetProperty) (sources : List SourceProperty)
    (pairs : List PropertyPair) : Prop where
  /-- Joining the sorted lists place by place leaves nothing over. -/
  inLockstep :
    zipStrictly? PropertyPair.mk (byName (·.name) targets) (byName (·.name) sources) = some pairs
  ascending : pairs.Pairwise fun left right => left.target.name < right.target.name
  sameName : ∀ pair ∈ pairs, pair.target.name = pair.source.name
  sameType : ∀ pair ∈ pairs, pair.target.type.agrees pair.source.type = true
  targetsJoined : (pairs.map (·.target)).Perm targets
  sourcesJoined : (pairs.map (·.source)).Perm sources
  targetOnce : ∀ t ∈ targets, ∃! pair, pair ∈ pairs ∧ pair.target = t
  sourceOnce : ∀ s ∈ sources, ∃! pair, pair ∈ pairs ∧ pair.source = s

/-- A property stands in exactly one of the pairs if the pairs differ in it. -/
theorem existsUnique_pair_of_map_eq {α : Type} {side : PropertyPair → α}
    {pairs : List PropertyPair} (distinct : (pairs.map side).Nodup) {a : α}
    (mem : a ∈ pairs.map side) : ∃! pair, pair ∈ pairs ∧ side pair = a := by
  obtain ⟨pair, memPair, rfl⟩ := List.mem_map.mp mem
  refine ⟨pair, ⟨memPair, rfl⟩, ?_⟩
  rintro other ⟨memOther, same⟩
  exact List.inj_on_of_nodup_map distinct memOther memPair same

theorem Corresponding.joinsAll (corresponding : Corresponding targets sources) :
    JoinsAll targets sources (pairsByName targets sources) := by
  have fromTargets := corresponding.targets_pairsByName
  have fromSources := corresponding.sources_pairsByName
  refine {
    inLockstep := corresponding.zipStrictly?_byName
    ascending := corresponding.pairsByName_ascending
    sameName := fun pair mem => (corresponding.of_mem_pairsByName mem).2.2
    sameType := ?_
    targetsJoined := fromTargets ▸ byName_perm _ targets
    sourcesJoined := fromSources ▸ byName_perm _ sources
    targetOnce := ?_
    sourceOnce := ?_ }
  · intro pair mem
    obtain ⟨memT, memS, sameName⟩ := corresponding.of_mem_pairsByName mem
    exact corresponding.agreeing _ memT _ memS sameName
  · intro t mem
    apply existsUnique_pair_of_map_eq
    · rw [fromTargets]
      exact (nodup_names_byName _ corresponding.distinctTargets).of_map _
    · rw [fromTargets]
      exact (mem_byName_iff _ _ _).mpr mem
  · intro s mem
    apply existsUnique_pair_of_map_eq
    · rw [fromSources]
      exact (nodup_names_byName _ corresponding.distinctSources).of_map _
    · rw [fromSources]
      exact (mem_byName_iff _ _ _).mpr mem

/-- What the check accepts is paired without a remainder, and the setters of the
pairs keep their order: each writes the target of its pair from the source. -/
theorem matchProperties_joinsAll [Packages] (classes : ClassTable Code)
    (accepted : validateMapping targets sources = .ok ()) :
    ∃ pairs, matchProperties targets sources = .ok pairs ∧ JoinsAll targets sources pairs ∧
      createSetters classes pairs =
        pairs.map fun pair => pair.target.setter classes pair.source.reader := by
  have corresponding := (validateMapping_eq_ok_iff targets sources).mp accepted
  refine ⟨pairsByName targets sources, ?_, corresponding.joinsAll, ?_⟩
  · exact (matchProperties_eq_ok_iff _).mpr ⟨corresponding, rfl⟩
  · exact corresponding.createSetters_pairsByName classes

open scoped RuntimePackages

/-- Two lists in opposite orders, of which both hold a name and an age. -/
theorem matchProperties_joinsAll_reversed :
    let name : TargetProperty := .declare 0 .any "name" (.standard .str) .assignment
    let age : TargetProperty := .declare 1 .any "age" (.standard .int) .assignment
    let age' : SourceProperty := .declare 0 .any "age" (.standard .int) pure
    let name' : SourceProperty := .declare 1 .any "name" (.standard .str) pure
    validateMapping [name, age] [age', name'] = .ok () ∧
      ∃ pairs, matchProperties [name, age] [age', name'] = .ok pairs ∧
        JoinsAll [name, age] [age', name'] pairs ∧
        createSetters {} pairs =
          pairs.map fun pair => pair.target.setter {} pair.source.reader := by
  intro name age age' name'
  have accepted : validateMapping [name, age] [age', name'] = .ok () := by
    rw [validateMapping_eq_ok_iff]
    constructor
    · decide
    · decide
    · intro n
      simp [name, age, age', name', TargetProperty.declare, SourceProperty.declare, or_comm]
    · intro t memT s memS
      simp only [List.mem_cons, List.not_mem_nil, or_false] at memT memS
      rcases memT with rfl | rfl <;> rcases memS with rfl | rfl <;> decide
  exact ⟨accepted, matchProperties_joinsAll {} accepted⟩

end ObjectMapping
