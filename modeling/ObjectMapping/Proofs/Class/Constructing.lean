import ObjectMapping.Class.Instantiation
import ObjectMapping.Proofs.Class.Copies
import ObjectMapping.Proofs.Class.NamedArguments
import ObjectMapping.Proofs.Class.PlainStorage

/-!
# What generated constructors make

A generated constructor of a frozen record stores the values of its parameters, and in
all other fields what their defaults say. So what it makes depends on nothing but
the values that it is given. If it is called in two worlds that come from one base, with
values that are alike, then it makes instances that are alike, or fails in both
(`ClassTable.instantiate_again`).

That needs as much of the code that runs behind the constructor: it settles each new
instance by itself (`ClassTable.SettlesAlone`).
-/

namespace ObjectMapping

variable {base w w' : World}

namespace ClassTable

variable (classes : ClassTable Code)

/-! ## Filling an instance -/

/-- Where the constructor gets the value of a field from, if it sets the field. -/
def valueSource? (layout : RecordLayout) (given : Entries String Value) (f : RecordField) :
    Option (Run Value) :=
  if f.kind = .stored then
    if f.accepted then some (pure ((Entries.get? given f.name).getD .null))
    else (storedDefault? layout f).map (·.create classes)
  else none

/-- The constructor of a frozen record sets its fields in order. -/
theorem fillRecord_cons [Packages] {layout : RecordLayout} (isFrozen : layout.isFrozen = true)
    (instanceValue : Value) (given : Entries String Value) (f : RecordField)
    (rest : List RecordField) :
    classes.fillRecord layout instanceValue given (f :: rest) =
      match classes.valueSource? layout given f with
      | some run => do
          let v ← run
          classes.storeUnguarded instanceValue f.name v
          classes.fillRecord layout instanceValue given rest
      | none => classes.fillRecord layout instanceValue given rest := by
  rw [fillRecord, valueSource?]
  by_cases isStored : f.kind = .stored
  · cases accepted : f.accepted with
    | true => simp [isStored, isFrozen]
    | false =>
      cases storedDefault? layout f with
      | none => simp [isStored]
      | some d => simp [isStored, isFrozen]
  · simp [isStored]

/-- A field that has a default of its own is set from the default that it declares. -/
theorem default?_of_storedDefault? {layout : RecordLayout} {f : RecordField} {d : Default}
    (has : storedDefault? layout f = some d) : f.default? = some d := by
  rw [storedDefault?] at has
  split at has
  · next v shared =>
    split at has
    · rw [shared, has]
    · cases has
  · exact has

/-- Instances of the class are frozen records that a generated constructor fills. All
parameters belong to fields, and the fields are stored plainly. -/
structure Generates [Packages] (c : ClassId) (layout : RecordLayout) : Prop where
  isFrozen : layout.isFrozen = true
  constructor : ∃ ancestor, classes.initializer? c = some (ancestor, .record) ∧
    ancestor.record? = some layout
  distinct : (layout.fields.map (·.name)).Nodup
  noInitOnly : ∀ f ∈ layout.fields, f.kind ≠ .initOnly
  plain : ∀ f ∈ layout.fields, f.kind = .stored → classes.ReadsPlainly c f.name

/-- What the defaults of fields are made from has been made. -/
def DefaultsWithin (layout : RecordLayout) (bound : Nat) : Prop :=
  ∀ f ∈ layout.fields, ∀ d, f.default? = some d → d.value.Within bound

/-- In two worlds that have come from one base, instances of the class are being filled
with values that are alike. -/
structure Filling (base : World) (c : ClassId) (own own' : Nat)
    (attributes attributes' : Entries String Value) (w w' : World) : Prop where
  kept : base.Keeps [] w
  kept' : base.Keeps [] w'
  isNew : base.heap.next ≤ own
  isNew' : base.heap.next ≤ own'
  found : w.heap.get? own = some (.record { classId := c, attributes := attributes })
  found' : w'.heap.get? own' = some (.record { classId := c, attributes := attributes' })
  alike : ∀ name, Option.Rel (w.heap.AlikeBeside w'.heap own own') (Entries.get? attributes name)
    (Entries.get? attributes' name)

namespace Filling

variable {classes} {c : ClassId} {own own' : Nat} {attributes attributes' : Entries String Value}
  {w₁ w₁' : World} (filling : Filling base c own own' attributes attributes' w w')

include filling

/-- Nothing changes for the instances while values for them are made. -/
theorem later (kept : w.Keeps [] w₁) (kept' : w'.Keeps [] w₁') :
    Filling base c own own' attributes attributes' w₁ w₁' where
  kept := filling.kept.trans kept
  kept' := filling.kept'.trans kept'
  isNew := filling.isNew
  isNew' := filling.isNew'
  found := kept.found filling.found
  found' := kept'.found filling.found'
  alike := fun name => optionRel_mono
    (fun _ _ beside => beside.later (kept.of_all _) (kept'.of_all _)) (filling.alike name)

/-- Once they are filled, the instances are alike. -/
theorem alike_instances : w.heap.Alike w'.heap (.object own) (.object own') := by
  refine .object filling.found filling.found' (.record ⟨rfl, fun name => ?_, fun _ => .none, rfl⟩)
  exact optionRel_mono (fun _ _ beside => Heap.alike_iff.mp beside.alike) (filling.alike name)

/-- Values that are alike can be put under a name. -/
theorem put (name : String) {v v' : Value} (alike : w.heap.AlikeBeside w'.heap own own' v v') :
    Filling base c own own' (Entries.put attributes name v) (Entries.put attributes' name v')
      { w with
        heap := w.heap.set own
          (.record { classId := c, attributes := Entries.put attributes name v }) }
      { w' with
        heap := w'.heap.set own'
          (.record { classId := c, attributes := Entries.put attributes' name v' }) } where
  kept := filling.kept.replaced _ (.inr filling.isNew)
  kept' := filling.kept'.replaced _ (.inr filling.isNew')
  isNew := filling.isNew
  isNew' := filling.isNew'
  found := Heap.get?_set_self _ (Heap.lt_next_of_get?_eq_some filling.found)
  found' := Heap.get?_set_self _ (Heap.lt_next_of_get?_eq_some filling.found')
  alike := fun other => by
    have written := World.Keeps.written w own
      (.record { classId := c, attributes := Entries.put attributes name v })
    have written' := World.Keeps.written w' own'
      (.record { classId := c, attributes := Entries.put attributes' name v' })
    by_cases same : name = other
    · subst same
      rw [Entries.get?_put_self, Entries.get?_put_self]
      exact .some (alike.later written written')
    · rw [Entries.get?_put_of_ne _ _ same, Entries.get?_put_of_ne _ _ same]
      exact optionRel_mono (fun _ _ beside => beside.later written written')
        (filling.alike other)

/-- If a value can be stored in the one instance, one that is like it can be stored in
the other. -/
theorem store [Packages] {name : String} (plain : classes.ReadsPlainly c name) {v v' : Value}
    (alike : w.heap.AlikeBeside w'.heap own own' v v')
    (ended : (classes.storeUnguarded (.object own) name v).Ends w () w₁) :
    ∃ w₁', (classes.storeUnguarded (.object own') name v').Ends w' () w₁' ∧
      w.Keeps [own] w₁ ∧ w'.Keeps [own'] w₁' ∧
      Filling base c own own' (Entries.put attributes name v) (Entries.put attributes' name v')
        w₁ w₁' := by
  have passive := plain.isPassive base.changes
  have current := classes.changed_eq_of_keeps filling.kept
  have current' := classes.changed_eq_of_keeps filling.kept'
  have notClass := ne_classAttribute_of_uncommon plain.uncommon
  have first := storeUnguarded_run v notClass filling.found (by rw [current]; exact passive)
  have second := storeUnguarded_run v' notClass filling.found' (by rw [current']; exact passive)
  rw [current] at first
  rw [current'] at second
  cases place : (classes.changed base.changes).hasPlace c name with
  | false =>
    rw [place, if_neg Bool.false_ne_true] at first
    rw [Run.Ends, first] at ended
    cases ended
  | true =>
    rw [place, if_pos rfl] at first second
    rw [Run.Ends, first] at ended
    cases ended
    exact ⟨_, second, .written w own _, .written w' own' _, filling.put name alike⟩

/-- What the constructors set a field to is alike. -/
theorem source (classes : ClassTable Code) (closed : base.heap.Closed) (layout : RecordLayout)
    {given given' : Entries String Value} {f : RecordField} (noInitOnly : f.kind ≠ .initOnly)
    (default : ∀ d, f.default? = some d → d.value.Within base.heap.next)
    (givenAlike : f.isParameter = true → ∃ v v', Entries.get? given f.name = some v ∧
      Entries.get? given' f.name = some v' ∧ w.heap.AlikeBeside w'.heap own own' v v') :
    (f.isParameter = false ∧ classes.valueSource? layout given f = none ∧
      classes.valueSource? layout given' f = none) ∨
    ∃ run run' v v' u u', classes.valueSource? layout given f = some run ∧
      classes.valueSource? layout given' f = some run' ∧ run.Ends w v u ∧ run'.Ends w' v' u' ∧
      w.Keeps [] u ∧ w'.Keeps [] u' ∧ u.heap.AlikeBeside u'.heap own own' v v' ∧
      (f.isParameter = true → Entries.get? given' f.name = some v') := by
  have own_lt := Heap.lt_next_of_get?_eq_some filling.found
  have own_lt' := Heap.lt_next_of_get?_eq_some filling.found'
  by_cases isStored : f.kind = .stored
  · cases accepted : f.accepted with
    | true =>
      have isParameter : f.isParameter = true := by
        simp [RecordField.isParameter, accepted, isStored]
      obtain ⟨v, v', isGiven, isGiven', alike⟩ := givenAlike isParameter
      refine .inr ⟨pure v, pure v', v, v', w, w', ?_, ?_, rfl, rfl, .refl [] w, .refl [] w', alike,
        fun _ => isGiven'⟩
      · simp [valueSource?, isStored, accepted, isGiven]
      · simp [valueSource?, isStored, accepted, isGiven']
    | false =>
      have notParameter : f.isParameter = false := by simp [RecordField.isParameter, accepted]
      cases stored : storedDefault? layout f with
      | none => exact .inl ⟨notParameter, by simp [valueSource?, accepted, stored]⟩
      | some d =>
        have within := default d (default?_of_storedDefault? stored)
        obtain ⟨v, u, made, kept, like⟩ := d.create_ends classes closed within filling.kept
        obtain ⟨v', u', made', kept', like'⟩ := d.create_ends classes closed within filling.kept'
        refine .inr ⟨d.create classes, d.create classes, v, v', u, u', ?_, ?_, made, made', kept,
          kept', like.beside like' ⟨filling.isNew, own_lt⟩ ⟨filling.isNew', own_lt'⟩,
          fun impossible => by simp [notParameter] at impossible⟩
        · simp [valueSource?, isStored, accepted, stored]
        · simp [valueSource?, isStored, accepted, stored]
  · have notParameter : f.isParameter = false := by
      by_contra isParameter
      rw [Bool.not_eq_false] at isParameter
      exact isStored (f.isStored_of_isParameter noInitOnly isParameter)
    exact .inl ⟨notParameter, by simp [valueSource?, isStored]⟩

omit filling in
/-- If one instance is filled, so is the other, and they are alike. The second has the
values that it is given, and no attributes that belong to no field. -/
theorem fillRecord [Packages] (closed : base.heap.Closed) {layout : RecordLayout}
    (generates : classes.Generates c layout)
    (defaults : DefaultsWithin layout base.heap.next) {given given' : Entries String Value}
    {fields : List RecordField} (listed : fields ⊆ layout.fields)
    (distinct : (fields.map (·.name)).Nodup)
    (filling : Filling base c own own' attributes attributes' w w')
    (givenAlike : ∀ f ∈ fields, f.isParameter = true → ∃ v v',
      Entries.get? given f.name = some v ∧ Entries.get? given' f.name = some v' ∧
      w.heap.AlikeBeside w'.heap own own' v v')
    (ended : (classes.fillRecord layout (.object own) given fields).Ends w () w₁) :
    ∃ w₁' filled filled',
      (classes.fillRecord layout (.object own') given' fields).Ends w' () w₁' ∧
      Filling base c own own' filled filled' w₁ w₁' ∧ w'.Keeps [own'] w₁' ∧
      (∀ name, name ∉ fields.map (·.name) →
        Entries.get? filled' name = Entries.get? attributes' name) ∧
      ∀ f ∈ fields, f.isParameter = true →
        Entries.get? filled' f.name = Entries.get? given' f.name := by
  induction fields generalizing w w' attributes attributes' with
  | nil =>
    cases ended
    exact ⟨w', attributes, attributes', rfl, filling, .refl _ _, fun _ _ => rfl, by simp⟩
  | cons f rest ih =>
    obtain ⟨inLayout, restListed⟩ := List.cons_subset.mp listed
    obtain ⟨notLater, restDistinct⟩ := List.nodup_cons.mp distinct
    obtain ⟨givenFirst, givenRest⟩ := List.forall_mem_cons.mp givenAlike
    have source := filling.source classes closed layout (generates.noInitOnly f inLayout)
      (defaults f inLayout) givenFirst
    rw [fillRecord_cons _ generates.isFrozen] at ended
    rcases source with ⟨notParameter, none, none'⟩ |
      ⟨run, run', v, v', u, u', isSource, isSource', made, made', kept, kept', alike, isGiven⟩
    · rw [none] at ended
      obtain ⟨w₁', filled, filled', ended', still, keeps, others, values⟩ :=
        ih restListed restDistinct filling givenRest ended
      refine ⟨w₁', filled, filled', ?_, still, keeps, ?_, ?_⟩
      · rw [fillRecord_cons _ generates.isFrozen, none']
        exact ended'
      · intro name notListed
        exact others name fun mem => notListed (List.mem_cons_of_mem _ mem)
      · intro g mem isParameter
        rcases List.mem_cons.mp mem with rfl | later
        · simp [notParameter] at isParameter
        · exact values g later isParameter
    · rw [isSource] at ended
      obtain ⟨_, _, isMade, ended⟩ := ended.exists_of_bind
      obtain ⟨rfl, rfl⟩ := made.unique isMade
      obtain ⟨⟨⟩, u₁, stored, ended⟩ := ended.exists_of_bind
      have isStored : f.kind = .stored := by
        by_contra notStored
        simp [valueSource?, notStored] at isSource
      have plain := generates.plain f inLayout isStored
      obtain ⟨u₁', stored', keeps₁, keeps₁', next⟩ :=
        (filling.later kept kept').store plain alike stored
      have givenNext : ∀ g ∈ rest, g.isParameter = true → ∃ v v',
          Entries.get? given g.name = some v ∧ Entries.get? given' g.name = some v' ∧
          u₁.heap.AlikeBeside u₁'.heap own own' v v' := by
        intro g mem isParameter
        obtain ⟨x, x', isGiven, isGiven', beside⟩ := givenRest g mem isParameter
        exact ⟨x, x', isGiven, isGiven', beside.later ((kept.of_all _).trans keeps₁)
          ((kept'.of_all _).trans keeps₁')⟩
      obtain ⟨w₁', filled, filled', ended', still, keeps, others, values⟩ :=
        ih restListed restDistinct next givenNext ended
      refine ⟨w₁', filled, filled', ?_, still, ?_, ?_, ?_⟩
      · rw [fillRecord_cons _ generates.isFrozen, isSource']
        exact made'.bind (stored'.bind ended')
      · exact ((kept'.of_all _).trans keeps₁').trans keeps
      · intro name notListed
        have apart : f.name ≠ name := by
          rintro rfl
          exact notListed (by simp)
        rw [others name fun mem => notListed (List.mem_cons_of_mem _ mem)]
        exact Entries.get?_put_of_ne _ _ apart
      · intro g mem isParameter
        rcases List.mem_cons.mp mem with rfl | later
        · rw [others g.name notLater, Entries.get?_put_self, isGiven isParameter]
        · exact values g later isParameter

end Filling

/-! ## Calling the class -/

/-- What a generated constructor does to an empty instance. -/
def construct [Packages] (layout : RecordLayout) (c : ClassId) (own : Nat)
    (named : Entries String Value) : Run Unit := do
  let values ← classes.bindAll layout.parameters { named := named }
  let given := (layout.parameters.map (·.name)).zip values
  classes.fillRecord layout (.object own) given layout.fields
  if layout.hasAfterInit then classes.runAfterInit c (.object own)

/-- Calling the class allocates an instance and constructs it. -/
theorem instantiate_run [Packages] {c : ClassId} {layout : RecordLayout}
    (generates : (classes.changed w.changes).Generates c layout) (named : Entries String Value) :
    (classes.instantiate c { named := named }).run.run w =
      if (classes.changed w.changes).refusesInstances c then (.error .badCall, w)
      else
        (do
          (classes.changed w.changes).construct layout c w.heap.next named
          return Value.object w.heap.next : Run Value).run.run
            { w with heap := w.heap.allocate (.record { classId := c }) } := by
  obtain ⟨ancestor, isInitializer, isLayout⟩ := generates.constructor
  have current := classes.now_ends w
  have world : (get : Run World).Ends w w w := rfl
  generalize classes.changed w.changes = table at current isInitializer ⊢
  rw [instantiate, current.run_bind, world.run_bind, instantiateWith]
  split
  · rfl
  · have filling : table.fillingOf c = pure (some (ancestor, .record)) := by
      rw [fillingOf, isInitializer]
    rw [filling]
    rw [world.run_bind, (Run.ends_allocate _ w).run_bind, pure_bind]
    simp only [fill, isLayout, construct]

/-- A call that succeeds is given values for parameters only. -/
theorem exists_parameter_of_instantiate_ends [Packages] {c : ClassId} {layout : RecordLayout}
    (generates : (classes.changed w.changes).Generates c layout) {named : Entries String Value}
    {result : Value} (ended : (classes.instantiate c { named := named }).Ends w result w') :
    ∀ entry ∈ named, ∃ f ∈ layout.fields, f.isParameter = true ∧ f.name = entry.1 := by
  rw [Run.Ends, classes.instantiate_run generates] at ended
  split at ended
  · cases ended
  · obtain ⟨_, u, constructed, -⟩ := Run.Ends.exists_of_bind ended
    obtain ⟨values, u', bound, -⟩ := constructed.exists_of_bind
    cases bindings : bindArguments? layout.parameters { named := named } with
    | none =>
      rw [bindAll, bindings] at bound
      cases bound
    | some _ =>
      intro entry mem
      exact RecordLayout.exists_parameter_of_bindArguments? bindings mem

/-- The code behind the constructor settles new instances by themselves: it writes
nothing but the instance that it is run on, and in this no parameter, and on instances that
are filled with values that are alike it succeeds as well and leaves them alike. -/
structure SettlesAlone (base : World) (c : ClassId) (layout : RecordLayout) : Prop where
  own {w w' : World} {own : Nat} {attributes : Entries String Value} : base.Keeps [] w →
    base.heap.next ≤ own →
    w.heap.get? own = some (.record { classId := c, attributes := attributes }) →
    (classes.runAfterInit c (.object own)).Ends w () w' →
    w.Keeps [own] w' ∧ ∃ r', w'.heap.get? own = some (.record r') ∧ r'.classId = c ∧
      ∀ f ∈ layout.fields, f.isParameter = true →
        Entries.get? r'.attributes f.name = Entries.get? attributes f.name
  again {w₁ w₁' w₂ : World} {own own' : Nat} {attributes attributes' : Entries String Value} :
    Filling base c own own' attributes attributes' w₁ w₂ →
    (classes.runAfterInit c (.object own)).Ends w₁ () w₁' →
    ∃ w₂', (classes.runAfterInit c (.object own')).Ends w₂ () w₂' ∧
      w₁'.heap.Alike w₂'.heap (.object own) (.object own')

/-- What a call has made: an instance of the class with the values that were given. -/
def IsMade (c : ClassId) (layout : RecordLayout) (named : Entries String Value) (own : Nat)
    (w : World) : Prop :=
  ∃ r, w.heap.get? own = some (.record r) ∧ r.classId = c ∧
    ∀ f ∈ layout.fields, f.isParameter = true →
      Entries.get? r.attributes f.name = Entries.get? named f.name

section Again

variable {classes} {c : ClassId} {layout : RecordLayout} {own own' : Nat}
  {named named' : Entries String Value}
  (closed : base.heap.Closed) (defaults : DefaultsWithin layout base.heap.next)
  (all : layout.IsGivenAll named) (all' : layout.IsGivenAll named')

include closed defaults all all'

/-- If one instance can be constructed, so can another one from values that are alike,
and they are alike. -/
theorem construct_again [Packages] (generates : classes.Generates c layout)
    (settles : layout.hasAfterInit = true → classes.SettlesAlone base c layout) {w₁ : World}
    (filling : Filling base c own own' [] [] w w')
    (alike : ∀ f ∈ layout.fields, f.isParameter = true → ∀ v v',
      Entries.get? named f.name = some v → Entries.get? named' f.name = some v' →
      w.heap.AlikeBeside w'.heap own own' v v')
    (ended : (classes.construct layout c own named).Ends w () w₁) :
    ∃ w₁', (classes.construct layout c own' named').Ends w' () w₁' ∧ w'.Keeps [own'] w₁' ∧
      IsMade c layout named' own' w₁' ∧ w₁.heap.Alike w₁'.heap (.object own) (.object own') := by
  rw [construct] at ended
  obtain ⟨values, u, bound, ended⟩ := ended.exists_of_bind
  obtain ⟨rfl, rfl⟩ := (all.bindAll_ends classes w).unique bound
  obtain ⟨⟨⟩, u, isFilled, settled⟩ := ended.exists_of_bind
  have lookup {named : Entries String Value} (all : layout.IsGivenAll named) (f : RecordField)
      (mem : f ∈ layout.fields) (isParameter : f.isParameter = true) :
      Entries.get? ((layout.parameters.map (·.name)).zip
        (layout.parameters.map fun p => (Entries.get? named p.name).getD .null)) f.name =
        Entries.get? named f.name := by
    obtain ⟨v, isGiven⟩ := all.each f mem isParameter
    have value := RecordLayout.get?_zip_parameters mem isParameter
      fun name => (Entries.get? named name).getD .null
    rw [value, isGiven]
    rfl
  have given : ∀ f ∈ layout.fields, f.isParameter = true → ∃ v v',
      Entries.get? ((layout.parameters.map (·.name)).zip
        (layout.parameters.map fun p => (Entries.get? named p.name).getD .null)) f.name = some v ∧
      Entries.get? ((layout.parameters.map (·.name)).zip
        (layout.parameters.map fun p => (Entries.get? named' p.name).getD .null)) f.name =
          some v' ∧ w.heap.AlikeBeside w'.heap own own' v v' := by
    intro f mem isParameter
    obtain ⟨v, isGiven⟩ := all.each f mem isParameter
    obtain ⟨v', isGiven'⟩ := all'.each f mem isParameter
    rw [lookup all f mem isParameter, lookup all' f mem isParameter]
    exact ⟨v, v', isGiven, isGiven', alike f mem isParameter v v' isGiven isGiven'⟩
  obtain ⟨u', filled, filled', isFilled', filling', keeps', -, hasValues⟩ :=
    filling.fillRecord closed generates defaults (List.Subset.refl _) generates.distinct given
      isFilled
  have values' (f : RecordField) (mem : f ∈ layout.fields) (isParameter : f.isParameter = true) :
      Entries.get? filled' f.name = Entries.get? named' f.name :=
    (hasValues f mem isParameter).trans (lookup all' f mem isParameter)
  have bound' := all'.bindAll_ends classes w'
  cases hasAfterInit : layout.hasAfterInit with
  | false =>
    simp only [hasAfterInit, Bool.false_eq_true, if_false] at settled
    cases settled
    refine ⟨u', ?_, keeps', ⟨_, filling'.found', rfl, values'⟩, filling'.alike_instances⟩
    rw [construct]
    exact bound'.bind (isFilled'.bind (by simp only [hasAfterInit]; rfl))
  | true =>
    simp only [hasAfterInit, if_true] at settled
    have settles := settles hasAfterInit
    obtain ⟨u₁', settled', likewise⟩ := settles.again filling' settled
    obtain ⟨onlyOwn, r, found, isClass, same⟩ :=
      settles.own filling'.kept' filling'.isNew' filling'.found' settled'
    refine ⟨u₁', ?_, keeps'.trans onlyOwn, ⟨r, found, isClass, ?_⟩, likewise⟩
    · rw [construct]
      exact bound'.bind (isFilled'.bind (by simp only [hasAfterInit, if_true]; exact settled'))
    · intro f mem isParameter
      exact (same f mem isParameter).trans (values' f mem isParameter)

/-- If a class can be called, it can be called elsewhere with values that are alike, and
what it makes is alike. -/
theorem instantiate_again [Packages] (generates : (classes.changed base.changes).Generates c layout)
    (settles : layout.hasAfterInit = true →
      (classes.changed base.changes).SettlesAlone base c layout)
    (kept : base.Keeps [] w) (kept' : base.Keeps [] w') {result : Value} {w₁ : World}
    (alike : ∀ f ∈ layout.fields, f.isParameter = true → ∀ v v',
      Entries.get? named f.name = some v → Entries.get? named' f.name = some v' →
      w.heap.Alike w'.heap v v')
    (ended : (classes.instantiate c { named := named }).Ends w result w₁) :
    ∃ w₁', (classes.instantiate c { named := named' }).Ends w' (.object w'.heap.next) w₁' ∧
      w'.Keeps [] w₁' ∧ IsMade c layout named' w'.heap.next w₁' ∧
      w₁.heap.Alike w₁'.heap result (.object w'.heap.next) := by
  have current := classes.changed_eq_of_keeps kept
  have current' := classes.changed_eq_of_keeps kept'
  have called := classes.instantiate_run (w := w) (by rw [current]; exact generates) named
  have called' := classes.instantiate_run (w := w') (by rw [current']; exact generates) named'
  rw [current] at called
  rw [current'] at called'
  cases refuses : (classes.changed base.changes).refusesInstances c with
  | true =>
    rw [refuses, if_pos rfl] at called
    rw [Run.Ends, called] at ended
    cases ended
  | false =>
    rw [refuses, if_neg Bool.false_ne_true] at called called'
    rw [Run.Ends, called] at ended
    obtain ⟨⟨⟩, u, constructed, isResult⟩ := Run.Ends.exists_of_bind ended
    cases isResult
    have allocated := World.Keeps.allocated w (.record { classId := c })
    have allocated' := World.Keeps.allocated w' (.record { classId := c })
    have filling : Filling base c w.heap.next w'.heap.next [] []
        { w with heap := w.heap.allocate (.record { classId := c }) }
        { w' with heap := w'.heap.allocate (.record { classId := c }) } := {
      kept := kept.trans allocated
      kept' := kept'.trans allocated'
      isNew := kept.growing
      isNew' := kept'.growing
      found := w.heap.get?_allocate_next _
      found' := w'.heap.get?_allocate_next _
      alike := fun _ => .none }
    have beside : ∀ f ∈ layout.fields, f.isParameter = true → ∀ v v',
        Entries.get? named f.name = some v → Entries.get? named' f.name = some v' →
        (w.heap.allocate (.record { classId := c })).AlikeBeside
          (w'.heap.allocate (.record { classId := c })) w.heap.next w'.heap.next v v' := by
      intro f mem isParameter v v' isGiven isGiven'
      have older := (alike f mem isParameter v v' isGiven isGiven').beside (Nat.le_refl _)
        (Nat.le_refl _)
      exact older.later (allocated.of_all _) (allocated'.of_all _)
    obtain ⟨w₁', constructed', keeps', isMade, likewise⟩ := construct_again closed defaults all all'
      generates settles filling beside constructed
    refine ⟨w₁', ?_, allocated'.trans_new (Nat.le_refl _) keeps', isMade, likewise⟩
    rw [Run.Ends, called']
    exact constructed'.bind rfl

end Again

end ClassTable

end ObjectMapping
