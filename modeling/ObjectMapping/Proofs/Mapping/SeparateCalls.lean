import ObjectMapping.Proofs.Mapping.InPlace
import ObjectMapping.Proofs.Mapping.LawfulReplacement
import ObjectMapping.Proofs.Mapping.OneReplacement

/-!
# Calls of one mapper

A mapper has no state of its own. Still its calls could disturb each other through the
objects that they share. They do not if each call fills a new target and values are read
purely (`calls_are_separate`): after any number of calls the results are different objects,
each is what the same call makes alone, and no object that there was before has changed.

Properties that are discovered are written lawfully as long as attributes are stored plainly
and records store all their fields (`Registry.writesLawfully_of_discovered`).

What carries this is a comparison of a call with the same call in another world. Both runs
are at targets that correspond (`TwinTargets`), and each setter takes them to targets that do.
That a factory makes a new object each time is not enough for it, since the object may tell
how many were made before.
-/

namespace ObjectMapping

/-- Writing the property on instances of the class is storing an attribute plainly, or
replacing the instance lawfully. -/
inductive TargetProperty.WritesLawfully [Packages] (classes : ClassTable Code) (base : World)
    (c : ClassId) (t : TargetProperty) : Prop where
  | inPlace (mode : t.mode = .assignment)
      (plain : (classes.changed base.changes).StoresPlainly c t.name)
  | anew {replacer : Replacer} (mode : t.mode = .replacement replacer)
      (lawful : replacer.IsLawful base c t.name)

/-- The factory makes instances of a class, always the same ones, and values are read
purely and written lawfully. There are no custom stages. -/
structure Specification.FillsPurely [Packages] (s : Specification) (classes : ClassTable Code)
    (base : World) (c : ClassId) (sources : List Value) : Prop where
  noCustoms : s.customs = []
  makes : ∀ factory, s.chosenFactory classes = .ok factory →
    factory.MakesFresh base fun r => r.classId = c
  writes : ∀ t ∈ s.targets, t.WritesLawfully classes base c
  reads : ∀ p ∈ s.sources, ∀ source ∈ sources, (p.reader source).IsPure base

theorem TargetProperty.WritesLawfully.takesReader_eq_false [Packages] {classes : ClassTable Code}
    {base : World} {c : ClassId} {t : TargetProperty} (writes : t.WritesLawfully classes base c) :
    t.mode.takesReader = false := by
  cases writes with
  | inPlace mode | anew mode => rw [mode]; rfl

variable {classes : ClassTable Code} {base u u' w w' z : World} {c : ClassId}
  {related later : Nat → Nat → Prop} {own own' : Nat} {source answer : Value}

/-- Discovered properties are written lawfully where attributes are stored plainly and
records store the values of all fields. -/
theorem Registry.writesLawfully_of_discovered [Packages] (lawful : Packages.CopiesModels)
    {type : TypeExpr} {discovered : List TargetProperty}
    (given : (standard.targets classes type).outcome.1 = .ok discovered)
    (plain : ∀ t ∈ discovered, t.mode = .assignment →
      (classes.changed base.changes).StoresPlainly c t.name)
    (records : ∀ t ∈ discovered, t.mode = .replacement classes.replaceField →
      ∃ layout, classes.StoresAllFields base c layout) {t : TargetProperty}
    (mem : t ∈ discovered) : t.WritesLawfully classes base c := by
  cases Registry.discoveredTargets_of_standard given with
  | inPlace each => exact .inPlace (each t mem) (plain t mem (each t mem))
  | record _ _ _ each =>
    have mode := (each t mem).1
    obtain ⟨layout, storesAll⟩ := records t mem mode
    exact .anew mode (ClassTable.isLawful_replaceField storesAll t.name)
  | model _ _ each =>
    obtain ⟨f, -, -, mode⟩ := each t mem
    split at mode
    · exact .anew mode (classes.isLawful_copyWithUpdate lawful base c t.name)
    · exact .inPlace mode (plain t mem mode)

/-! ## Setting properties of targets that correspond -/

namespace TwinTargets

variable (targets : TwinTargets base u u' w w' c related own own')

include targets

/-- Values that are alike can be stored in both. -/
theorem put [Packages] {name : String} (plain : (classes.changed base.changes).StoresPlainly c name)
    {v v' : Value} (values : v.AlikeBy related v') : ∃ z z',
    (classes.writeAttribute (.object own) name v).Ends w () z ∧
    (classes.writeAttribute (.object own') name v').Ends w' () z' ∧
    TwinTargets base u u' z z' c related own own' := by
  obtain ⟨r, r', found, found', alike, isOfClass⟩ := targets.exists_alike
  have table := classes.changed_eq_of_keeps (targets.twins.since.trans targets.twins.kept)
  have table' := classes.changed_eq_of_keeps (targets.twins.since'.trans targets.twins.kept')
  have stored := ClassTable.writeAttribute_ends v (by rwa [table, isOfClass]) found
  have stored' := ClassTable.writeAttribute_ends v'
    (by rwa [table', ← alike.classId, isOfClass]) found'
  exact ⟨_, _, stored, stored', targets.set (alike.put name values) isOfClass⟩

/-- Writing a property takes both targets to targets that correspond. The targets before
still are instances of the class. -/
theorem write [Packages] {t : TargetProperty} (writes : t.WritesLawfully classes base c)
    {v v' : Value} (values : v.AlikeBy related v')
    (ended : (t.write classes (.object own) source v).Ends w answer z) :
    ∃ place place' z' later, answer = .object place ∧
      (t.write classes (.object own') source v').Ends w' (.object place') z' ∧
      TwinTargets base u u' z z' c later place place' ∧
      (∃ r, z.heap.get? own = some (.record r) ∧ r.classId = c) ∧
      ∃ r', z'.heap.get? own' = some (.record r') ∧ r'.classId = c := by
  cases writes with
  | inPlace mode plain =>
    obtain ⟨z₁, z', stored, stored', next⟩ := targets.put plain values
    rw [t.write_of_assignment mode] at ended ⊢
    have written : Run.Ends (do
        classes.writeAttribute (.object own) t.name v
        return Value.object own) w (.object own) z₁ := stored.bind rfl
    obtain ⟨rfl, rfl⟩ := written.unique ended
    obtain ⟨r, r', found, found', alike, isOfClass⟩ := next.exists_alike
    exact ⟨own, own', z', related, rfl, stored'.bind (Run.ends_pure _ _), next,
      ⟨r, found, isOfClass⟩, r', found', alike.classId.symm.trans isOfClass⟩
  | anew mode lawful =>
    rw [t.write_of_replacement mode] at ended ⊢
    obtain ⟨place, place', z', later, rfl, ended', kept, kept', next⟩ := lawful targets values ended
    obtain ⟨r, r', found, found', alike, isOfClass⟩ := targets.exists_alike
    exact ⟨place, place', z', later, rfl, ended', next, ⟨r, kept.found found, isOfClass⟩,
      r', kept'.found found', alike.classId.symm.trans isOfClass⟩

/-- A setter takes both targets to targets that correspond. -/
theorem setter [Packages] {pair : PropertyPair} (writes : pair.target.WritesLawfully classes base c)
    (isPure : (pair.source.reader source).IsPure base)
    (ended : (Stage.returningTarget classes (pair.setter classes) (.object own) source).Ends w
      answer z) :
    ∃ place place' z' later, answer = .object place ∧
      (Stage.returningTarget classes (pair.setter classes) (.object own') source).Ends w'
        (.object place') z' ∧
      TwinTargets base u u' z z' c later place place' := by
  rw [pair.setter_eq writes.takesReader_eq_false] at ended ⊢
  obtain ⟨v, w₁, isRead, ended⟩ := ended.exists_of_bind
  obtain ⟨answer', z₁, written, decided⟩ := ended.exists_of_bind
  obtain ⟨v', w₁', shared, isRead', twins, values⟩ := isPure
    (targets.twins.since.trans targets.twins.kept)
    (targets.twins.since'.trans targets.twins.kept') isRead
  obtain ⟨place, place', z', later, rfl, written', next, ⟨old, foundOld, isOld⟩, old', foundOld',
    isOld'⟩ := (targets.append twins).write writes (values.mono fun _ _ => .inr) written
  obtain ⟨r, r', found, found', alike, isOfClass⟩ := next.exists_alike
  have decides : (keepTarget classes (.object own) (.object place)).Ends z₁ (.object place) z₁ :=
    keepTarget_ends foundOld found (isOfClass.trans isOld.symm)
  have decides' :
      (keepTarget classes (.object own') (.object place')).Ends z' (.object place') z' :=
    keepTarget_ends foundOld' found' ((alike.classId.symm.trans isOfClass).trans isOld'.symm)
  obtain ⟨rfl, rfl⟩ := decides.unique decided
  exact ⟨place, place', z', later, rfl, isRead'.bind (written'.bind decides'), next⟩

/-- All setters take both targets to targets that correspond. -/
theorem compose_setters [Packages] {pairs : List PropertyPair}
    (writes : ∀ pair ∈ pairs, pair.target.WritesLawfully classes base c)
    (reads : ∀ pair ∈ pairs, (pair.source.reader source).IsPure base)
    (ended : (compose classes (pairs.map (·.setter classes)) (.object own) source).Ends w
      answer z) :
    ∃ place place' z' later, answer = .object place ∧
      (compose classes (pairs.map (·.setter classes)) (.object own') source).Ends w'
        (.object place') z' ∧
      TwinTargets base u u' z z' c later place place' := by
  induction pairs generalizing w w' related own own' with
  | nil =>
    cases ended
    exact ⟨own, own', w', related, rfl, Run.ends_pure _ w', targets⟩
  | cons pair rest ih =>
    obtain ⟨writesFirst, writesRest⟩ := List.forall_mem_cons.mp writes
    obtain ⟨readsFirst, readsRest⟩ := List.forall_mem_cons.mp reads
    rw [compose_setters_cons] at ended
    obtain ⟨_, w₁, first, ended⟩ := ended.exists_of_bind
    obtain ⟨next, next', w₁', shared, rfl, first', targets'⟩ :=
      targets.setter writesFirst readsFirst first
    obtain ⟨place, place', z', later, isResult, rest', last⟩ :=
      ih targets' writesRest readsRest ended
    refine ⟨place, place', z', later, isResult, ?_, last⟩
    rw [compose_setters_cons]
    exact first'.bind rest'

end TwinTargets

/-! ## One call -/

/-- Two runs of the factory make targets that correspond. -/
theorem Run.MakesFresh.exists_twinTargets {factory : Factory}
    (makes : factory.MakesFresh base fun r => r.classId = c) (since : base.Keeps [] u)
    (since' : base.Keeps [] u') {v : Value} (ended : factory.Ends u v w) :
    ∃ own own' w' related, v = .object own ∧ factory.Ends u' (.object own') w' ∧
      TwinTargets base u u' w w' c related own own' := by
  obtain ⟨v', w', related, ended', twins, alike⟩ := makes.isPure since since' ended
  obtain ⟨own, r, rfl, isNew, found, isOfClass⟩ := makes.isNew since ended
  obtain ⟨own', rfl, isRelated⟩ := alike.exists_object
  exact ⟨own, own', w', related, rfl, ended', twins, isRelated, isNew, r, found, isOfClass⟩

/-- Making a target and filling it purely is pure but for the instance that it makes. -/
theorem Run.MakesFresh.fill [Packages] {factory : Factory} {pairs : List PropertyPair}
    (makes : factory.MakesFresh base fun r => r.classId = c)
    (writes : ∀ pair ∈ pairs, pair.target.WritesLawfully classes base c)
    (reads : ∀ pair ∈ pairs, (pair.source.reader source).IsPure base) :
    Run.MakesFresh base (fun r => r.classId = c)
      (factory >>= fun target => compose classes (pairs.map (·.setter classes)) target source) := by
  have both {u u' w : World} {v : Value} (since : base.Keeps [] u) (since' : base.Keeps [] u')
      (ended : Run.Ends
        (factory >>= fun target => compose classes (pairs.map (·.setter classes)) target source)
        u v w) :
      ∃ own own' w' related, v = .object own ∧ Run.Ends
        (factory >>= fun target => compose classes (pairs.map (·.setter classes)) target source)
        u' (.object own') w' ∧ TwinTargets base u u' w w' c related own own' := by
    obtain ⟨_, u₁, produced, ended⟩ := ended.exists_of_bind
    obtain ⟨own, own', u₁', related, rfl, produced', targets⟩ :=
      makes.exists_twinTargets since since' produced
    obtain ⟨place, place', w', later, isResult, ended', last⟩ :=
      targets.compose_setters writes reads ended
    exact ⟨place, place', w', later, isResult, produced'.bind ended', last⟩
  constructor
  · intro u u' w v since since' ended
    obtain ⟨own, own', w', related, rfl, ended', targets⟩ := both since since' ended
    exact ⟨.object own', w', related, ended', targets.twins, .object targets.isRelated⟩
  · intro u w v since ended
    obtain ⟨own, _, _, _, rfl, _, targets⟩ := both since since ended
    obtain ⟨r, found, isOfClass⟩ := targets.isOfClass
    exact ⟨own, r, rfl, targets.isNew, found, isOfClass⟩

/-- Without contextual stages, the context is of no account. -/
theorem composeContextual_nil (classes : ClassTable Code) (stages : List Stage)
    (target source context : Value) :
    composeContextual classes stages [] target source context =
      compose classes stages target source := by
  simp [composeContextual]

section Calling

variable {s : Specification} {sources : List Value} {factory : Factory}

/-- What is compiled from a specification that fills purely. -/
theorem Specification.FillsPurely.makesFresh [Packages]
    (fills : s.FillsPurely classes base c sources)
    (corresponding : Corresponding s.targets s.sources)
    (chosen : s.chosenFactory classes = .ok factory) (mem : source ∈ sources) :
    Run.MakesFresh base (fun r => r.classId = c) (factory >>= fun target =>
      compose classes (createSetters classes (pairsByName s.targets s.sources) ++ s.customs)
        target source) := by
  rw [fills.noCustoms, List.append_nil, corresponding.createSetters_pairsByName]
  refine (fills.makes factory chosen).fill (fun pair isPair => ?_) fun pair isPair => ?_
  · exact fills.writes _ (corresponding.of_mem_pairsByName isPair).1
  · exact fills.reads _ (corresponding.of_mem_pairsByName isPair).2.1 source mem

theorem Mapper.makesFresh_map [Packages] {mapper : Mapper}
    (fills : s.FillsPurely classes base c sources)
    (created : (s.create classes).outcome.1 = .ok mapper) (mem : source ∈ sources) :
    (mapper.map source).MakesFresh base fun r => r.classId = c := by
  obtain ⟨corresponding, factory, chosen, rfl⟩ := (s.create_eq_ok_iff classes mapper).mp created
  exact fills.makesFresh corresponding chosen mem

theorem ContextualMapper.makesFresh_map [Packages] {s : ContextualSpecification}
    {mapper : ContextualMapper}
    (noCustoms : s.customs = []) (fills : s.inner.FillsPurely classes base c sources)
    (created : (s.create classes).outcome.1 = .ok mapper) (mem : source ∈ sources)
    (context : Value) : (mapper.map source context).MakesFresh base fun r => r.classId = c := by
  obtain ⟨corresponding, factory, chosen, rfl⟩ :=
    (s.inner.compileWith_eq_ok_iff classes _ _).mp (s.create_outcome classes ▸ created)
  simp only [map, noCustoms, composeContextual_nil]
  exact fills.makesFresh corresponding chosen mem

end Calling

/-! ## Any number of calls -/

/-- Any number of calls of a mapper, on any sources and in any order, succeed exactly if
each of them does alone, and then the results are different new objects. Each is what
the same call of another such mapper makes alone, and no object that there was has changed. -/
theorem calls_are_separate [Packages] {classes : ClassTable Code} {base : World} {c : ClassId} :
    (∀ (s : Specification) (sources : List Value), s.FillsPurely classes base c sources →
      ∀ mapper other, (s.create classes).outcome.1 = .ok mapper →
        (s.create classes).outcome.1 = .ok other →
        ((sources.mapM mapper.map).Succeeds base ↔
          ∀ source ∈ sources, (other.map source).Succeeds base) ∧
        ∀ results w, (sources.mapM mapper.map).Ends base results w →
          SeparateResults base base other.map sources results w) ∧
    (∀ (s : ContextualSpecification) (inputs : List MappingInput), s.customs = [] →
      s.inner.FillsPurely classes base c (inputs.map (·.source)) →
      ∀ mapper other, (s.create classes).outcome.1 = .ok mapper →
        (s.create classes).outcome.1 = .ok other →
        ((inputs.mapM fun input => mapper.map input.source input.context).Succeeds base ↔
          ∀ input ∈ inputs, (other.map input.source input.context).Succeeds base) ∧
        ∀ results w,
          (inputs.mapM fun input => mapper.map input.source input.context).Ends base results w →
          SeparateResults base base (fun input => other.map input.source input.context) inputs
            results w) := by
  constructor
  · intro s sources fills mapper other created createdOther
    obtain rfl : mapper = other := Except.ok.inj (created.symm.trans createdOther)
    have fresh : ∀ source ∈ sources, (mapper.map source).MakesFresh base fun r => r.classId = c :=
      fun source mem => Mapper.makesFresh_map fills created mem
    exact ⟨Run.MakesFresh.mapM_succeeds_iff fresh (.refl [] base),
      fun results w ended => Run.MakesFresh.separateResults fresh (.refl [] base) ended⟩
  · intro s inputs noCustoms fills mapper other created createdOther
    obtain rfl : mapper = other := Except.ok.inj (created.symm.trans createdOther)
    have fresh : ∀ input ∈ inputs,
        (mapper.map input.source input.context).MakesFresh base fun r => r.classId = c :=
      fun input mem => ContextualMapper.makesFresh_map noCustoms fills created
        (List.mem_map_of_mem mem) input.context
    exact ⟨Run.MakesFresh.mapM_succeeds_iff fresh (.refl [] base),
      fun results w ended => Run.MakesFresh.separateResults fresh (.refl [] base) ended⟩

/-! ## Titles of entries -/

open scoped RuntimePackages

/-- An entry with a title. -/
def entryOf (title : String) : Instance where
  classId := .declared 1
  attributes := [("title", .text title)]

/-- Two entries to fill targets from. -/
def entriesWorld : World where
  heap := ⟨#[.record (entryOf "Blue"), .record (entryOf "Hejira")]⟩

/-- The title of instances of a class. -/
def titleTarget (c : ClassId) (mode : TargetMode) : TargetProperty where
  identity := 0
  owner := albumClasses.typeOf c
  name := "title"
  type := .standard .str
  mode := mode

/-- The title of entries. -/
def titleSource : SourceProperty :=
  .ofAttribute albumClasses 0 (albumClasses.typeOf (.declared 1)) "title" (.standard .str)

/-- The title of an entry is written on new instances. -/
def titleSpecification (made : Instance) (mode : TargetMode) : Specification where
  target := albumClasses.typeOf made.classId
  source := albumClasses.typeOf (.declared 1)
  targets := [titleTarget made.classId mode]
  sources := [titleSource]
  factory? := some (Run.allocate (.record made))

theorem closed_entriesWorld : entriesWorld.heap.Closed := by
  intro address object found v mem
  have isEntry : ∃ title, object = .record (entryOf title) := by
    match address with
    | 0 => exact ⟨"Blue", (Option.some.inj found).symm⟩
    | 1 => exact ⟨"Hejira", (Option.some.inj found).symm⟩
    | _ + 2 => cases found
  obtain ⟨title, rfl⟩ := isEntry
  obtain rfl : v = .text title := by simpa [Object.values, entryOf] using mem
  exact Value.within_of_plain rfl

/-- Entries store titles plainly. -/
theorem storesPlainly_entry : albumClasses.StoresPlainly (.declared 1) "title" where
  uncommon := by decide
  passive := by
    intro owner m owned
    have nothing : albumClasses.owned? (.declared 1) "title" = none := rfl
    rw [nothing] at owned
    cases owned
  isOpen := by decide
  unguarded := by decide

theorem isPure_titleSource {own : Nat} {title : String}
    (found : entriesWorld.heap.get? own = some (.record (entryOf title))) :
    (titleSource.reader (.object own)).IsPure entriesWorld := by
  refine SourceProperty.ofAttribute_isPure closed_entriesWorld found
    storesPlainly_entry.toReadsPlainly ?_ (by decide) 0 _ _
  intro owner v owned
  cases owned

/-- Titles are written purely if they are written lawfully on what the factory makes. -/
theorem fillsPurely_title {made : Instance} {mode : TargetMode}
    (writes : (titleTarget made.classId mode).WritesLawfully albumClasses entriesWorld made.classId)
    (within : ∀ v ∈ (Object.record made).values, v.Within entriesWorld.heap.next) :
    (titleSpecification made mode).FillsPurely albumClasses entriesWorld made.classId
      [.object 0, .object 1, .object 0] where
  noCustoms := rfl
  makes := by
    rintro factory ⟨⟩
    exact Run.makesFresh_allocate closed_entriesWorld rfl within
  writes := List.forall_mem_singleton.mpr writes
  reads := by
    refine List.forall_mem_singleton.mpr fun source isSource => ?_
    simp only [List.mem_cons, List.not_mem_nil, or_false] at isSource
    rcases isSource with rfl | rfl | rfl <;> exact isPure_titleSource rfl

theorem corresponding_title (made : Instance) (mode : TargetMode) :
    Corresponding (titleSpecification made mode).targets
      (titleSpecification made mode).sources :=
  corresponding_singleton rfl rfl

/-- Making a target and setting its title. -/
def titleCall (made : Instance) (mode : TargetMode) (source : Value) : Run Value := do
  let target ← Run.allocate (.record made)
  compose albumClasses [(titleTarget made.classId mode).setter albumClasses titleSource.reader]
    target source

theorem createSetters_title (made : Instance) (mode : TargetMode) :
    createSetters albumClasses (pairsByName (titleSpecification made mode).targets
      (titleSpecification made mode).sources) =
      [(titleTarget made.classId mode).setter albumClasses titleSource.reader] := by
  rw [(corresponding_title made mode).createSetters_pairsByName]
  simp [titleSpecification, pairsByName, byName, PropertyPair.setter]

theorem exists_titleMapper (made : Instance) (mode : TargetMode) : ∃ mapper,
    ((titleSpecification made mode).create albumClasses).outcome.1 = .ok mapper ∧
    mapper.map = titleCall made mode := by
  refine ⟨_, ((titleSpecification made mode).create_eq_ok_iff albumClasses _).mpr
    ⟨corresponding_title made mode, Run.allocate (.record made), rfl, rfl⟩, ?_⟩
  funext source
  rw [Mapper.map, createSetters_title]
  rfl

theorem exists_titleMapperInContext (made : Instance) (mode : TargetMode) : ∃ mapper,
    (((titleSpecification made mode).usingContext .any).create albumClasses).outcome.1 =
      .ok mapper ∧
    ∀ source context, mapper.map source context = titleCall made mode source := by
  have outcome := ((titleSpecification made mode).usingContext .any).create_outcome albumClasses
  refine ⟨_, outcome.trans ((Specification.compileWith_eq_ok_iff _ _ _ _).mpr
    ⟨corresponding_title made mode, Run.allocate (.record made), rfl, rfl⟩), ?_⟩
  intro source context
  simp only [ContextualMapper.map, Specification.usingContext, composeContextual_nil,
    createSetters_title]
  rfl

/-- Three calls on two entries make three entries of their titles, or three albums. -/
theorem calls_are_separate_titles :
    (∃ mapper results w,
      ((titleSpecification (entryOf "") .assignment).create albumClasses).outcome.1 = .ok mapper ∧
      ([.object 0, .object 1, .object 0].mapM mapper.map).Ends entriesWorld results w ∧
      SeparateResults entriesWorld entriesWorld mapper.map [.object 0, .object 1, .object 0]
        results w) ∧
    ∃ mapper results w,
      let inputs : List MappingInput := [⟨.object 0, .null⟩, ⟨.object 1, .null⟩, ⟨.object 0, .null⟩]
      (((titleSpecification (newAlbum "") (.replacement albumClasses.copyWithUpdate)).usingContext
        .any).create albumClasses).outcome.1 = .ok mapper ∧
      (inputs.mapM fun input => mapper.map input.source input.context).Ends entriesWorld results w ∧
      SeparateResults entriesWorld entriesWorld
        (fun input => mapper.map input.source input.context) inputs results w := by
  constructor
  · obtain ⟨mapper, created, isCall⟩ := exists_titleMapper (entryOf "") .assignment
    have fills : (titleSpecification (entryOf "") .assignment).FillsPurely albumClasses
        entriesWorld (.declared 1) [.object 0, .object 1, .object 0] :=
      fillsPurely_title (.inPlace rfl storesPlainly_entry)
        (by simp [Object.values, entryOf, Value.Within, Value.addresses, Value.text])
    obtain ⟨succeeds, separate⟩ := calls_are_separate.1 _ _ fills mapper mapper created created
    have each : ∀ source ∈ [Value.object 0, .object 1, .object 0],
        (mapper.map source).Succeeds entriesWorld := by
      rw [isCall]
      intro source mem
      simp only [List.mem_cons, List.not_mem_nil, or_false] at mem
      rcases mem with rfl | rfl | rfl <;> exact ⟨_, _, rfl⟩
    obtain ⟨results, w, ended⟩ := succeeds.mpr each
    exact ⟨mapper, results, w, created, ended, separate results w ended⟩
  · obtain ⟨mapper, created, isCall⟩ :=
      exists_titleMapperInContext (newAlbum "") (.replacement albumClasses.copyWithUpdate)
    have fills : (titleSpecification (newAlbum "")
        (.replacement albumClasses.copyWithUpdate)).FillsPurely albumClasses entriesWorld
        (.declared 0) [.object 0, .object 1, .object 0] :=
      fillsPurely_title (.anew rfl (ClassTable.isLawful_copyWithUpdate
        RuntimePackages.copiesModels albumClasses _ _ _))
        (by simp [Object.values, newAlbum, Value.Within, Value.addresses, Value.text])
    obtain ⟨succeeds, separate⟩ := calls_are_separate.2 _
      [⟨.object 0, .null⟩, ⟨.object 1, .null⟩, ⟨.object 0, .null⟩] rfl fills mapper mapper
      created created
    have each : ∀ input ∈
        [MappingInput.mk (.object 0) .null, ⟨.object 1, .null⟩, ⟨.object 0, .null⟩],
        (mapper.map input.source input.context).Succeeds entriesWorld := by
      simp only [isCall]
      intro input mem
      simp only [List.mem_cons, List.not_mem_nil, or_false] at mem
      rcases mem with rfl | rfl | rfl <;> exact ⟨_, _, rfl⟩
    obtain ⟨results, w, ended⟩ := succeeds.mpr each
    exact ⟨mapper, results, w, created, ended, separate results w ended⟩

/-! ## A factory that counts -/

/-- Makes a new instance with the next number of a counter. -/
def numbering : Factory := do
  match ← Run.object? 0 with
  | some (.record r) =>
      let number := numberOf (Entries.get? r.attributes "number") + 1
      ClassTable.putAttribute 0 "number" (.number number)
      Run.allocate (.record {
        classId := .declared 1, attributes := [("number", .number number)] })
  | _ => throw .badOperand

/-- The factory makes a new object on each call. -/
theorem numbering_isNew {v : Value} (ended : numbering.Ends w v z) :
    ∃ own r, v = .object own ∧ w.heap.next ≤ own ∧ z.heap.get? own = some (.record r) := by
  have look := Run.ends_object? 0 w
  rw [numbering, Run.Ends, look.run_bind] at ended
  split at ended
  · next r found =>
    rw [(ClassTable.putAttribute_ends "number" _ found).run_bind] at ended
    cases ended
    exact ⟨_, _, rfl, by simp, Heap.get?_allocate_next _ _⟩
  · cases ended

/-- Nothing is matched, and the factory counts. -/
def numberedSpecification : Specification where
  target := .any
  source := .any
  targets := []
  sources := []
  factory? := some numbering

/-- A counter that has not counted. -/
def counterWorld : World where
  heap := ⟨#[.record { classId := .declared 0, attributes := [("number", .number 0)] }]⟩

theorem exists_numberingMapper : ∃ mapper,
    (numberedSpecification.create {}).outcome.1 = .ok mapper ∧
    mapper.map = fun _ => numbering := by
  refine ⟨_, (numberedSpecification.create_eq_ok_iff {} _).mpr
    ⟨corresponding_nil, numbering, rfl, rfl⟩, ?_⟩
  funext source
  have unpaired : createSetters {} (pairsByName numberedSpecification.targets
      numberedSpecification.sources) = [] := by
    simp [createSetters, pairsByName, byName, numberedSpecification]
  rw [Mapper.map, unpaired]
  exact bind_pure numbering

/-- That the factory makes new objects is not enough: the second of two calls makes an
instance with another number than it makes alone. -/
theorem not_separate_numbered :
    numberedSpecification.customs = [] ∧
    (∀ w v z, numbering.Ends w v z → ∃ own r, v = .object own ∧ w.heap.next ≤ own ∧
      z.heap.get? own = some (.record r)) ∧
    ∃ mapper z, (numberedSpecification.create {}).outcome.1 = .ok mapper ∧
      ([.null, .null].mapM mapper.map).Ends counterWorld [.object 1, .object 2] z ∧
      ∀ alone z', (mapper.map .null).Ends counterWorld alone z' →
        ¬ counterWorld.Mirrors z z' (.object 2) alone := by
  obtain ⟨mapper, created, isNumbering⟩ := exists_numberingMapper
  have counted : ∃ z r, ([Value.null, .null].mapM mapper.map).Ends counterWorld
      [.object 1, .object 2] z ∧ z.heap.get? 2 = some (.record r) ∧
      numberOf (Entries.get? r.attributes "number") = 2 := by
    rw [isNumbering]
    exact ⟨_, _, rfl, rfl, rfl⟩
  have first : ∃ z' r', (mapper.map .null).Ends counterWorld (.object 1) z' ∧
      z'.heap.get? 1 = some (.record r') ∧
      numberOf (Entries.get? r'.attributes "number") = 1 := by
    rw [isNumbering]
    exact ⟨_, _, rfl, rfl, rfl⟩
  obtain ⟨z, r, ended, found, isTwo⟩ := counted
  obtain ⟨z', r', endedAlone, found', isOne⟩ := first
  refine ⟨rfl, fun _ _ _ => numbering_isNew, mapper, z, created, ended, ?_⟩
  intro alone z'' endedAgain mirrors
  obtain ⟨rfl, rfl⟩ := endedAlone.unique endedAgain
  have same := numberOf_eq_of_alike found found' mirrors.alike "number"
  omega

end ObjectMapping
