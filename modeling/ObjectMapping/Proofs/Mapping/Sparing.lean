import ObjectMapping.Proofs.Class.Calling
import ObjectMapping.Proofs.Discovery.Modes
import ObjectMapping.Proofs.Mapping.Course

/-!
# What setters spare

Code of classes and readers may do anything to any object. Here they spare a
target (`ClassTable.CodeSpares`, `Run.Spares`): they leave its attributes as they
are, unless they are run on the target itself.

Then setters spare the target too, as soon as they work on another object. One that
stores an attribute works on what it is given, and one that replaces its target goes on
with an object that is newer. So what setters keep is said for any condition that
leaves new objects free, and for a target at a free address.
-/

namespace ObjectMapping

/-! ## What is left alone -/

/-- The attributes of a value, where objects are what a heap says. -/
def Heap.attributesOf (heap : Heap) : Value → Option (Entries String Value)
  | .object address =>
      match heap.get? address with
      | some (.record r) => some r.attributes
      | _ => none
  | _ => none

/-- The value is older than what is made at an address. -/
def Value.IsBefore (v : Value) (address : Nat) : Prop :=
  ∀ own, v = .object own → own < address

/-- The value has been made, and has these attributes. -/
structure World.Shows (target : Value) (attributes? : Option (Entries String Value))
    (w : World) : Prop where
  made : target.IsBefore w.heap.next
  attributes : w.heap.attributesOf target = attributes?

variable {target : Value} {attributes? : Option (Entries String Value)}

theorem Value.IsBefore.of_le {address address' : Nat} (isBefore : target.IsBefore address)
    (later : address ≤ address') : target.IsBefore address' :=
  fun own isObject => Nat.lt_of_lt_of_le (isBefore own isObject) later

/-- Writing another object leaves the attributes as they are. -/
theorem Heap.attributesOf_set {heap : Heap} {address : Nat} (object : Object)
    (isBefore : target.IsBefore address) :
    (heap.set address object).attributesOf target = heap.attributesOf target := by
  cases target with
  | object own =>
    have apart : address ≠ own := by
      have older := isBefore own rfl
      omega
    simp only [attributesOf, Heap.get?_set_ne object apart]
  | _ => rfl

theorem Heap.attributesOf_allocate {heap : Heap} (object : Object)
    (isBefore : target.IsBefore heap.next) :
    (heap.allocate object).attributesOf target = heap.attributesOf target := by
  cases target with
  | object own => simp only [attributesOf, Heap.get?_allocate_of_lt object (isBefore own rfl)]
  | _ => rfl

/-- What is stored apart is no attribute. -/
theorem Heap.attributesOf_setApart {heap : Heap} {address : Nat} {r : Instance}
    (found : heap.get? address = some (.record r)) (apart : Entries String Value) :
    (heap.set address (.record { r with apart := apart })).attributesOf target =
      heap.attributesOf target := by
  cases target with
  | object own =>
    by_cases same : address = own
    · subst same
      have stored := Heap.get?_set_self (.record { r with apart := apart })
        (Heap.lt_next_of_get?_eq_some found)
      simp only [attributesOf, stored, found]
    · simp only [attributesOf, Heap.get?_set_ne _ same]
  | _ => rfl

/-- A value that has been made stays, whatever is written. -/
theorem Value.concernsAttributes_isBefore (target : Value) :
    World.ConcernsAttributes (fun w => target.IsBefore w.heap.next) fun _ => True where
  allocated := fun w object made => made.of_le (by simp)
  next := fun _ _ => trivial
  filled := fun w w' object _ made => made.of_le (by simp)
  rewritten := fun w address r r' _ _ made => made.of_le (by simp)
  made := fun _ _ made => made
  changed := fun _ _ made => made
  storedApart := fun w address r apart _ made => made.of_le (by simp)

/-- What a value shows is left alone where only newer objects are written. -/
theorem World.Shows.concernsAttributes (target : Value)
    (attributes? : Option (Entries String Value)) :
    World.ConcernsAttributes (World.Shows target attributes?) target.IsBefore where
  allocated := fun w object shows => {
    made := shows.made.of_le (by simp)
    attributes := (Heap.attributesOf_allocate object shows.made).trans shows.attributes }
  next := fun _ shows => shows.made
  filled := fun w w' object before shows => {
    made := shows.made.of_le (by simp)
    attributes := (Heap.attributesOf_set object before.made).trans shows.attributes }
  rewritten := fun w address r r' isBefore _ shows => {
    made := shows.made.of_le (by simp)
    attributes := (Heap.attributesOf_set _ isBefore).trans shows.attributes }
  made := fun _ _ shows => ⟨shows.made, shows.attributes⟩
  changed := fun _ _ shows => ⟨shows.made, shows.attributes⟩
  storedApart := fun w address r apart found shows => {
    made := shows.made.of_le (by simp)
    attributes := (Heap.attributesOf_setApart found apart).trans shows.attributes }

/-- A run spares a value: it leaves its attributes as they are. -/
def Run.Spares {α : Type} (target : Value) (run : Run α) : Prop :=
  ∀ attributes?, run.Preserves (World.Shows target attributes?)

/-- The code of classes and of packages spares a value, except that setters, constructors and
the code behind them may do anything to the instance that they are run on. -/
structure ClassTable.CodeSpares [Packages] (classes : ClassTable Code) (target : Value) : Prop where
  keeps : classes.CodeKeeps (fun w => target.IsBefore w.heap.next) fun _ => True
  spares : ∀ attributes?, classes.CodeKeeps (World.Shows target attributes?) target.IsBefore

/-- Where classes have no code, it spares everything that packages spare. -/
theorem ClassTable.codeSpares_of_bare [Packages] {classes : ClassTable Code}
    (packages : ∀ {kept free}, World.ConcernsAttributes kept free → Packages.Keep kept free)
    (bare : ∀ c ∈ classes.classes, c.members = [] ∧
      (∀ parameters body, c.initializer? ≠ some (.code parameters body)) ∧ c.afterInit? = none) :
    classes.CodeSpares target := by
  have keeps {kept : World → Prop} {free : Nat → Prop}
      (concerns : World.ConcernsAttributes kept free) : classes.CodeKeeps kept free := by
    refine codeKeeps_of_declared (packages concerns) fun c mem => ?_
    obtain ⟨members, initializer, afterInit⟩ := bare c mem
    exact ClassInfo.codeKeeps_of_bare members initializer afterInit
  exact ⟨keeps target.concernsAttributes_isBefore,
    fun attributes? => keeps (World.Shows.concernsAttributes target attributes?)⟩

theorem Run.Spares.preserves_made {α : Type} {run : Run α} (spares : run.Spares target) :
    run.Preserves fun w => target.IsBefore w.heap.next :=
  fun w made => (spares (w.heap.attributesOf target) w ⟨made, rfl⟩).made

/-- Properties that are read as attributes spare what the code of classes spares. -/
theorem SourceProperty.ofAttribute_spares [Packages] {classes : ClassTable Code}
    (code : classes.CodeSpares target) (identity : Nat) (owner : TypeExpr) (name : String)
    (declared : TypeExpr) (source : Value) :
    ((ofAttribute classes identity owner name declared).reader source).Spares target := by
  intro attributes?
  have concerns := World.Shows.concernsAttributes target attributes?
  exact .foldlM (fun v name => (code.spares attributes?).readAttribute concerns v name) _ _

/-! ## What setters keep -/

variable [Packages] {kept : World → Prop} {free : Nat → Prop}
  {creating discovering : ClassTable Code}

/-- The ways in which discovered properties are written. -/
inductive TargetMode.IsDiscovered (classes : ClassTable Code) : TargetMode → Prop where
  | assigned : IsDiscovered classes .assignment
  | copied : IsDiscovered classes (.replacement classes.copyWithUpdate)
  | remade : IsDiscovered classes (.replacement classes.replaceField)

/-- The property is written in a discovered way, and reading its value keeps a condition. -/
structure PropertyPair.IsPlain (kept : World → Prop) (discovering : ClassTable Code)
    (source : Value) (pair : PropertyPair) : Prop where
  mode : pair.target.mode.IsDiscovered discovering
  reads : (pair.source.reader source).Preserves kept

theorem TargetMode.IsDiscovered.takesReader_eq_false {mode : TargetMode}
    (discovered : mode.IsDiscovered discovering) : mode.takesReader = false := by
  cases discovered <;> rfl

/-- Unless code of its own does it, setting a property is reading, writing and deciding which
target goes on. -/
theorem PropertyPair.setter_eq (pair : PropertyPair)
    (plain : pair.target.mode.takesReader = false) (current source : Value) :
    Stage.returningTarget creating (pair.setter creating) current source =
      pair.source.reader source >>= fun v =>
        pair.target.write creating current source v >>= keepTarget creating current := by
  rw [Stage.returningTarget, ensuringTarget, PropertyPair.setter,
    TargetProperty.setter_eq_write plain, bind_assoc]

omit [Packages] in
theorem preserves_keepTarget (classes : ClassTable Code) (current answer : Value) :
    (keepTarget classes current answer).Preserves kept := by
  intro w holds
  rw [keepTarget_eq]
  exact holds

omit [Packages] in
/-- Whichever target goes on, it is at a free address if both are. -/
theorem yields_bind_keepTarget {run : Run Value} (yields : run.YieldsFree kept free)
    {address : Nat} (isFree : free address) (classes : ClassTable Code) :
    (run >>= keepTarget classes (.object address)).YieldsFree kept free := by
  intro w v w' holds ended
  obtain ⟨answer, w₁, ran, decided⟩ := ended.exists_of_bind
  rw [Run.Ends, keepTarget_eq] at decided
  obtain ⟨held, rfl⟩ := Prod.mk.inj decided
  rcases ClassTable.eq_or_of_heldTarget held with rfl | ⟨rfl, -⟩
  · exact ⟨address, rfl, isFree⟩
  · exact yields w v _ holds ran

/-- Setters run in order, each on the target that the one before left. -/
theorem compose_setters_cons (pair : PropertyPair) (rest : List PropertyPair)
    (current source : Value) :
    compose creating ((pair :: rest).map (·.setter creating)) current source =
      Stage.returningTarget creating (pair.setter creating) current source >>= fun next =>
        compose creating (rest.map (·.setter creating)) next source := by
  rw [compose, List.map_cons, List.foldlM_cons]
  rfl

section Writing

variable (concerns : World.ConcernsAttributes kept free)
  (created : creating.CodeKeeps kept free) (discovered : discovering.CodeKeeps kept free)

include concerns created discovered

/-- Writing a discovered property keeps what code keeps, unless it stores an attribute
in an object at an address that is not free. -/
theorem TargetProperty.preserves_write {t : TargetProperty}
    (mode : t.mode.IsDiscovered discovering) {current : Value}
    (isFree : t.mode = .assignment → ∀ address, current = .object address → free address)
    (source v : Value) : (t.write creating current source v).Preserves kept := by
  cases isMode : t.mode with
  | assignment =>
    have store := created.writeAttribute_of_free concerns (isFree isMode) t.name v
    rw [t.write_of_assignment isMode]
    exact store.bind fun _ => .pure _
  | replacement replacer =>
    rw [t.write_of_replacement isMode]
    rw [isMode] at mode
    cases mode with
    | copied => exact ClassTable.preserves_copyWithUpdate discovered.packages _ _ _ _
    | remade => exact discovered.replaceField concerns _ _ _
  | custom description code =>
    rw [isMode] at mode
    cases mode

omit created in
/-- Writing a discovered property answers an object at a free address, if the target is
at one. -/
theorem TargetProperty.write_yields {t : TargetProperty}
    (mode : t.mode.IsDiscovered discovering) {address : Nat} (isFree : free address)
    (source v : Value) : (t.write creating (.object address) source v).YieldsFree kept free := by
  cases isMode : t.mode with
  | assignment =>
    rw [t.write_of_assignment isMode]
    exact .bind_pure isFree
  | replacement replacer =>
    rw [t.write_of_replacement isMode]
    rw [isMode] at mode
    cases mode with
    | copied => exact discovering.copyWithUpdate_yields discovered.packages _ _ _
    | remade => exact discovered.replaceField_yields concerns _ _ _
  | custom description code =>
    rw [isMode] at mode
    cases mode

variable {source : Value} {pair : PropertyPair} (plain : pair.IsPlain kept discovering source)

include plain

theorem PropertyPair.preserves_setter {current : Value}
    (isFree : pair.target.mode = .assignment → ∀ address, current = .object address →
      free address) :
    (Stage.returningTarget creating (pair.setter creating) current source).Preserves kept := by
  rw [pair.setter_eq plain.mode.takesReader_eq_false]
  refine plain.reads.bind fun v => ?_
  have write : (pair.target.write creating current source v).Preserves kept :=
    TargetProperty.preserves_write concerns created discovered plain.mode isFree source v
  exact write.bind (preserves_keepTarget creating current)

omit created in
theorem PropertyPair.setter_yields {address : Nat} (isFree : free address) :
    (Stage.returningTarget creating (pair.setter creating) (.object address) source).YieldsFree
      kept free := by
  rw [pair.setter_eq plain.mode.takesReader_eq_false]
  refine plain.reads.bind_yields fun v => ?_
  have write : (pair.target.write creating (.object address) source v).YieldsFree kept free :=
    TargetProperty.write_yields concerns discovered plain.mode isFree source v
  exact yields_bind_keepTarget write isFree creating

omit concerns created in
/-- A changed copy of a model takes the place of the model, since it is of its class. -/
theorem PropertyPair.copying_setter_yields (lawful : Packages.CopiesModels)
    (copies : pair.target.mode = .replacement discovering.copyWithUpdate) (current : Value) :
    (Stage.returningTarget creating (pair.setter creating) current source).YieldsFree
      kept free := by
  rw [pair.setter_eq plain.mode.takesReader_eq_false]
  refine plain.reads.bind_yields fun v => ?_
  intro w result w' holds ended
  obtain ⟨answer, w₁, written, decided⟩ := ended.exists_of_bind
  rw [pair.target.write_of_replacement copies] at written
  have isFree := discovering.copyWithUpdate_yields discovered.packages current pair.target.name v
    w answer w₁ holds written
  obtain ⟨address, r, rfl, found, copied⟩ := discovering.exists_of_copyWithUpdate written
  obtain ⟨place, rfl, -, kept, made⟩ := lawful.copies found copied
  have goesOn : (keepTarget creating (.object address) (.object place)).Ends w₁ _ w₁ :=
    keepTarget_ends (kept.found found) made rfl
  obtain ⟨rfl, rfl⟩ := goesOn.unique decided
  exact isFree

end Writing

/-! ## Runs of setters -/

section Running

variable (concerns : World.ConcernsAttributes kept free)
  (created : creating.CodeKeeps kept free) (discovered : discovering.CodeKeeps kept free)
  {source : Value} {pairs : List PropertyPair}
  (plain : ∀ pair ∈ pairs, pair.IsPlain kept discovering source)

include concerns created discovered plain

/-- Setters keep what code keeps, whatever the target is, if those that store attributes
may do so in all objects. -/
theorem preserves_compose
    (allFree : ∀ pair ∈ pairs, pair.target.mode = .assignment → ∀ address, free address)
    (current : Value) :
    (compose creating (pairs.map (·.setter creating)) current source).Preserves kept := by
  induction pairs generalizing current with
  | nil => exact .pure current
  | cons pair rest ih =>
    obtain ⟨plainFirst, plainRest⟩ := List.forall_mem_cons.mp plain
    obtain ⟨freeFirst, freeRest⟩ := List.forall_mem_cons.mp allFree
    have first : (Stage.returningTarget creating (pair.setter creating) current source).Preserves
        kept :=
      pair.preserves_setter concerns created discovered plainFirst
        fun assigned address _ => freeFirst assigned address
    rw [compose_setters_cons]
    exact first.bind fun next => ih plainRest freeRest next

/-- Once the target is at a free address, setters of all kinds keep what code keeps. -/
theorem preserves_compose_of_free {address : Nat} (isFree : free address) :
    (compose creating (pairs.map (·.setter creating)) (.object address) source).Preserves kept := by
  induction pairs generalizing address with
  | nil => exact .pure _
  | cons pair rest ih =>
    obtain ⟨plainFirst, plainRest⟩ := List.forall_mem_cons.mp plain
    have first : (Stage.returningTarget creating (pair.setter creating) (.object address)
        source).Preserves kept :=
      pair.preserves_setter concerns created discovered plainFirst
        fun _ own isObject => by cases isObject; exact isFree
    have yields : (Stage.returningTarget creating (pair.setter creating) (.object address)
        source).YieldsFree kept free :=
      pair.setter_yields concerns discovered plainFirst isFree
    rw [compose_setters_cons]
    exact first.bind_free yields fun next isFree' => ih plainRest isFree'

end Running

/-- Setters that store attributes go on with the target that they are given. -/
theorem eq_of_compose_ends {source current v : Value} {pairs : List PropertyPair} {w w' : World}
    (assigned : ∀ pair ∈ pairs, pair.target.mode = .assignment)
    (ended : (compose creating (pairs.map (·.setter creating)) current source).Ends w v w') :
    v = current := by
  induction pairs generalizing w with
  | nil =>
    cases ended
    rfl
  | cons pair rest ih =>
    obtain ⟨assignedFirst, assignedRest⟩ := List.forall_mem_cons.mp assigned
    have plain : pair.target.mode.takesReader = false := by rw [assignedFirst]; rfl
    rw [compose_setters_cons, pair.setter_eq plain] at ended
    obtain ⟨next, w₁, first, later⟩ := ended.exists_of_bind
    obtain ⟨read, w₂, -, first⟩ := first.exists_of_bind
    obtain ⟨answer, w₃, written, decided⟩ := first.exists_of_bind
    rw [pair.target.write_of_assignment assignedFirst] at written
    obtain ⟨_, _, _, isTarget⟩ := written.exists_of_bind
    cases isTarget
    rw [Run.Ends, keepTarget_eq, ClassTable.heldTarget_of_sameClass rfl] at decided
    cases decided
    exact ih assignedRest later

/-- Setters in two rows run one row after the other. -/
theorem compose_setters_append (pairs rest : List PropertyPair) (current source : Value) :
    compose creating ((pairs ++ rest).map (·.setter creating)) current source =
      compose creating (pairs.map (·.setter creating)) current source >>= fun next =>
        compose creating (rest.map (·.setter creating)) next source := by
  rw [compose, List.map_append, List.foldlM_append]
  rfl

end ObjectMapping
