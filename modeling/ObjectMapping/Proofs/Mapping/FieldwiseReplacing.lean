import Mathlib.Logic.Function.Basic
import ObjectMapping.Proofs.Class.CallingAgain
import ObjectMapping.Proofs.Mapping.Replacing
import ObjectMapping.Proofs.Mapping.ReplacementResults

/-!
# Replacing field by field

A replacer makes a new target of an old one and of a value for one name. It works field by
field (`Replacer.IsFieldwise`) if nothing decides what it makes but which values stand under
the names. These values are followed beside the objects, as a function of names: replacing
updates it at one name, and two targets that were made of the same values are alike. The
laws of writing fields then are those of updating a function.

Two very different replacers work like that. A copy of a model is the model with one stored
value changed (`ClassTable.CopiesFreely.isFieldwise`). A frozen record is made anew from
what it shows for all parameters of its constructor (`ClassTable.RemakesFreely.isFieldwise`);
whatever else such a record stores is set anew as well.
-/

namespace ObjectMapping

variable {classes : ClassTable Code} {base w w' : World} {own own' : Nat} {r : Instance}
  {names : List String} {values : String → Option Value} {name : String} {v : Value}

/-- What instances like the given one show under a name, by what they store there. -/
def ClassTable.shownStoring (classes : ClassTable Code) (r : Instance) (name : String)
    (stored? : Option Value) : Except Fault Value :=
  match stored? with
  | some v => .ok v
  | none => classes.shown { r with attributes := [] } name

theorem ClassTable.shown_eq_shownStoring {r' : Instance} (sameClass : r'.classId = r.classId)
    (sameApart : r'.apart = r.apart) (name : String) :
    classes.shown r' name = classes.shownStoring r name (Entries.get? r'.attributes name) := by
  cases stored : Entries.get? r'.attributes name with
  | some v => exact shown_of_get? stored
  | none => exact shown_congr sameClass sameApart stored

/-- The values that an instance shows. -/
def ClassTable.shownValues (classes : ClassTable Code) (r : Instance) (name : String) :
    Option Value :=
  (classes.shown r name).toOption

theorem ClassTable.shownValues_eq_some_iff :
    classes.shownValues r name = some v ↔ classes.shown r name = .ok v := by
  rw [shownValues]
  cases classes.shown r name with
  | error fault => simp [Except.toOption]
  | ok u => simp [Except.toOption]

/-- The values have been made. -/
def AreWithin (bound : Nat) (values : String → Option Value) : Prop :=
  ∀ name v, values name = some v → v.Within bound

theorem AreWithin.update {bound : Nat} (within : AreWithin bound values) (name : String)
    (isWithin : v.Within bound) : AreWithin bound (Function.update values name (some v)) := by
  intro other u isValue
  by_cases same : other = name
  · subst same
    rw [Function.update_self] at isValue
    exact Option.some.inj isValue ▸ isWithin
  · rw [Function.update_of_ne same] at isValue
    exact within other u isValue

variable [Packages]

/-- Replacing works field by field: it makes of a target that holds values one that was made
of the same values but for one name, keeps all objects, and what is made of the same values
is alike. Reading shows the values. -/
structure Replacer.IsFieldwise (replacer : Replacer) (classes : ClassTable Code) (base : World)
    (r : Instance) (names : List String)
    (Holds Made : (String → Option Value) → World → Nat → Prop) : Prop where
  replaces {values : String → Option Value} {w : World} {own : Nat} {name : String} {v : Value} :
    base.Keeps [] w → Holds values w own → name ∈ names → v.Within base.heap.next →
    ∃ place w', (replacer (.object own) name v).Ends w (.object place) w' ∧ w.Keeps [] w' ∧
      Made (Function.update values name (some v)) w' place
  holds {values : String → Option Value} {w : World} {own : Nat} :
    Made values w own → Holds values w own
  isOfClass {values : String → Option Value} {w : World} {own : Nat} :
    Holds values w own → w.HasInstance own r.classId
  reads {values : String → Option Value} {w : World} {own : Nat} {name : String} :
    base.Keeps [] w → Holds values w own → name ∈ names →
    (classes.readAttribute (.object own) name).run.run w =
      ((classes.changed base.changes).shownStoring r name (values name), w)
  alike {values : String → Option Value} {w w' : World} {own own' : Nat} :
    base.Keeps [] w → base.Keeps [] w' → Made values w own → Made values w' own' →
    w.heap.Alike w'.heap (.object own) (.object own')

/-- Both runs end with instances that are alike and show the same under the names, and they
keep all objects. -/
def ClassTable.EndTheSame (classes : ClassTable Code) (base : World) (names : List String)
    (first second : Run Value) : Prop :=
  ∃ own own' w w', first.Ends base (.object own) w ∧ second.Ends base (.object own') w' ∧
    base.Keeps [] w ∧ base.Keeps [] w' ∧ w.heap.Alike w'.heap (.object own) (.object own') ∧
    ∀ name ∈ names, ((classes.readAttribute (.object own) name).run.run w).1 =
      ((classes.readAttribute (.object own') name).run.run w').1

namespace Replacer.IsFieldwise

variable {replacer : Replacer} {Holds Made : (String → Option Value) → World → Nat → Prop}
  (fieldwise : replacer.IsFieldwise classes base r names Holds Made)
  (holds : Holds values base own)

include fieldwise holds

/-- Replacing a value makes an instance of the class that shows it, shows everything else as
before and is a new object. -/
theorem sets (mem : name ∈ names) (within : v.Within base.heap.next) :
    ∃ place w, (replacer (.object own) name v).Ends base (.object place) w ∧
      base.Keeps [] w ∧ w.HasInstance place r.classId ∧
      (classes.readAttribute (.object place) name).Ends w v w ∧
      ∀ other ∈ names, other ≠ name →
        (classes.readAttribute (.object place) other).run.run w =
          (((classes.readAttribute (.object own) other).run.run base).1, w) := by
  obtain ⟨place, w, ended, kept, made⟩ := fieldwise.replaces (.refl [] base) holds mem within
  have holds' := fieldwise.holds made
  refine ⟨place, w, ended, kept, fieldwise.isOfClass holds', ?_, fun other listed apart => ?_⟩
  · have read := fieldwise.reads kept holds' mem
    rwa [Function.update_self] at read
  · rw [fieldwise.reads kept holds' listed, fieldwise.reads (.refl [] base) holds listed,
      Function.update_of_ne apart]

/-- Replacing two values, one after the other, updates the values twice. -/
theorem replaces_both {first second : String} {u v : Value} (mem : first ∈ names)
    (mem' : second ∈ names) (within : u.Within base.heap.next) (within' : v.Within base.heap.next) :
    ∃ place w, (do
        let next ← replacer (.object own) first u
        replacer next second v : Run Value).Ends base (.object place) w ∧
      base.Keeps [] w ∧
      Made (Function.update (Function.update values first (some u)) second (some v)) w place := by
  obtain ⟨place, w, ended, kept, made⟩ := fieldwise.replaces (.refl [] base) holds mem within
  obtain ⟨place', w', ended', kept', made'⟩ :=
    fieldwise.replaces kept (fieldwise.holds made) mem' within'
  exact ⟨place', w', ended.bind ended', kept.trans kept', made'⟩

omit holds in
/-- Runs that make targets of the same values end the same. -/
theorem endTheSame {first second : Run Value}
    (ended : first.Ends base (.object own) w) (ended' : second.Ends base (.object own') w')
    (kept : base.Keeps [] w) (kept' : base.Keeps [] w') (made : Made values w own)
    (made' : Made values w' own') : classes.EndTheSame base names first second := by
  refine ⟨own, own', w, w', ended, ended', kept, kept', fieldwise.alike kept kept' made made', ?_⟩
  intro name mem
  rw [fieldwise.reads kept (fieldwise.holds made) mem,
    fieldwise.reads kept' (fieldwise.holds made') mem]

/-- Only the last value counts. -/
theorem replaces_again {u v : Value} (mem : name ∈ names) (within : u.Within base.heap.next)
    (within' : v.Within base.heap.next) :
    classes.EndTheSame base names (do
        let next ← replacer (.object own) name u
        replacer next name v) (replacer (.object own) name v) := by
  obtain ⟨place, w, ended, kept, made⟩ :=
    fieldwise.replaces_both holds mem mem within within'
  obtain ⟨place', w', ended', kept', made'⟩ :=
    fieldwise.replaces (.refl [] base) holds mem within'
  rw [Function.update_idem] at made
  exact fieldwise.endTheSame ended ended' kept kept' made made'

/-- Values of different names may be replaced in either order. -/
theorem replaces_swapped {first second : String} {u v : Value} (apart : first ≠ second)
    (mem : first ∈ names) (mem' : second ∈ names) (within : u.Within base.heap.next)
    (within' : v.Within base.heap.next) :
    classes.EndTheSame base names
      (do
        let next ← replacer (.object own) first u
        replacer next second v)
      (do
        let next ← replacer (.object own) second v
        replacer next first u) := by
  obtain ⟨place, w, ended, kept, made⟩ :=
    fieldwise.replaces_both holds mem mem' within within'
  obtain ⟨place', w', ended', kept', made'⟩ :=
    fieldwise.replaces_both holds mem' mem within' within
  rw [Function.update_comm apart.symm] at made'
  exact fieldwise.endTheSame ended ended' kept kept' made made'

end Replacer.IsFieldwise

/-! ## Copies of models -/

/-- A model that its constructor has prepared, of which all fields are read plainly. -/
structure ClassTable.CopiesFreely (classes : ClassTable Code) (base : World) (own : Nat)
    (r : Instance) (layout : ModelLayout) : Prop where
  found : base.heap.get? own = some (.record r)
  isModel : classes.modelLayout? r.classId = some layout
  isPrepared : r.isPrepared = true
  plain : ∀ f ∈ layout.fields, (classes.changed base.changes).ReadsPlainly r.classId f.name
  closed : base.heap.Closed

/-- There is an instance at the address that stores the values and otherwise is like the given
one. -/
def StoresValues (base : World) (r : Instance) (values : String → Option Value) (w : World)
    (own : Nat) : Prop :=
  AreWithin base.heap.next values ∧ ∃ r', w.heap.get? own = some (.record r') ∧
    r'.classId = r.classId ∧ r'.apart = r.apart ∧ r'.isPrepared = r.isPrepared ∧
    ∀ name, Entries.get? r'.attributes name = values name

namespace ClassTable.CopiesFreely

variable {layout : ModelLayout} (copies : classes.CopiesFreely base own r layout)

include copies

theorem storesValues : StoresValues base r (Entries.get? r.attributes) base own := by
  refine ⟨fun name v stored => ?_, r, copies.found, rfl, rfl, rfl, fun _ => rfl⟩
  refine copies.closed own _ copies.found v (List.mem_append_left _ ?_)
  exact List.mem_map_of_mem (Entries.mem_of_get?_eq_some stored)

/-- Instances that store the same values are alike. -/
theorem alike {place place' : Nat} (kept : base.Keeps [] w) (kept' : base.Keeps [] w')
    (stores : StoresValues base r values w place) (stores' : StoresValues base r values w' place') :
    w.heap.Alike w'.heap (.object place) (.object place') := by
  obtain ⟨within, r₁, found₁, sameClass₁, sameApart₁, samePreparation₁, stored₁⟩ := stores
  obtain ⟨-, r₂, found₂, sameClass₂, sameApart₂, samePreparation₂, stored₂⟩ := stores'
  have same {u : Value} (isWithin : u.Within base.heap.next) :
      u.AlikeBy (w.heap.Related w'.heap) u :=
    Heap.alike_iff.mp (copies.closed.alike_self kept kept' isWithin)
  refine .object found₁ found₂ (.record
    ⟨sameClass₁.trans sameClass₂.symm, fun name => ?_, fun name => ?_,
      samePreparation₁.trans samePreparation₂.symm⟩)
  · rw [stored₁, stored₂]
    cases isValue : values name with
    | none => exact .none
    | some u => exact .some (same (within name u isValue))
  · rw [sameApart₁, sameApart₂]
    cases stored : Entries.get? r.apart name with
    | none => exact .none
    | some u =>
      refine .some (same (copies.closed own _ copies.found u (List.mem_append_right _ ?_)))
      exact List.mem_map_of_mem (Entries.mem_of_get?_eq_some stored)

/-- Copying a model with one value changed replaces it field by field. -/
theorem isFieldwise (lawful : Packages.CopiesModels) :
    Replacer.IsFieldwise classes.copyWithUpdate classes base r (layout.fields.map (·.name))
      (StoresValues base r) (StoresValues base r) where
  replaces {values w place name v} kept stores mem within := by
    obtain ⟨areWithin, r', found, sameClass, sameApart, samePreparation, stored⟩ := stores
    have isModel : (classes.modelLayout? r'.classId).isSome = true := by
      rw [sameClass, copies.isModel]
      rfl
    obtain ⟨made, w', ended⟩ := (copyWithUpdate_succeeds_iff found).mpr ⟨isModel,
      lawful.prepared name v found (samePreparation.trans copies.isPrepared)⟩
    obtain ⟨copy, rfl, -, keptAll, isCopy⟩ := copyWithUpdate_ends_new lawful found ended
    have differs := r'.differsAt_put name v
    refine ⟨copy, w', ended, keptAll, areWithin.update name within, _, isCopy, sameClass,
      sameApart, samePreparation, fun other => ?_⟩
    by_cases same : other = name
    · subst same
      rw [Function.update_self]
      exact differs.changed
    · rw [Function.update_of_ne same]
      exact (differs.others other same).trans (stored other)
  holds stores := stores
  isOfClass stores := by
    obtain ⟨-, r', found, sameClass, -⟩ := stores
    exact ⟨r', found, sameClass⟩
  reads {values w place name} kept stores mem := by
    obtain ⟨-, r', found, sameClass, sameApart, -, stored⟩ := stores
    obtain ⟨f, isField, rfl⟩ := List.mem_map.mp mem
    have table := classes.changed_eq_of_keeps kept
    have plain := copies.plain f isField
    rw [← table, ← sameClass] at plain
    rw [readAttribute_run plain found, table, shown_eq_shownStoring sameClass sameApart, stored]
  alike kept kept' stores stores' := copies.alike kept kept' stores stores'

end ClassTable.CopiesFreely

/-! ## Records that are called again -/

/-- A frozen record that can be made again from what it shows: it shows a value for every
parameter, its class can be called, and no code is behind the constructor. -/
structure ClassTable.RemakesFreely (classes : ClassTable Code) (base : World) (own : Nat)
    (r : Instance) (layout : RecordLayout) : Prop extends
    ClassTable.Remakes classes base own r layout where
  noAfterInit : layout.hasAfterInit = false
  shows : ∀ f ∈ layout.fields, f.isParameter = true →
    ∃ v, (classes.changed base.changes).shown r f.name = .ok v
  isCallable : ∃ named, layout.IsGivenAll named ∧
    (classes.instantiate r.classId { named := named }).Succeeds base

/-- The record at the address shows the values for the parameters. -/
def ShowsValues (classes : ClassTable Code) (base : World) (c : ClassId) (layout : RecordLayout)
    (values : String → Option Value) (w : World) (own : Nat) : Prop :=
  AreWithin base.heap.next values ∧ ∃ r', w.heap.get? own = some (.record r') ∧
    r'.classId = c ∧ ∀ f ∈ layout.fields, f.isParameter = true → ∃ v, values f.name = some v ∧
      (classes.changed base.changes).shown r' f.name = .ok v

/-- The record at the address was made by calling its class with the values. -/
def MadeOfValues (classes : ClassTable Code) (base : World) (c : ClassId) (layout : RecordLayout)
    (values : String → Option Value) (w : World) (own : Nat) : Prop :=
  ShowsValues classes base c layout values w own ∧ ∃ named u u', base.Keeps [] u ∧
    layout.IsGivenAll named ∧
    (∀ f ∈ layout.fields, f.isParameter = true → Entries.get? named f.name = values f.name) ∧
    (classes.instantiate c { named := named }).Ends u (.object own) u' ∧ u'.Keeps [] w

namespace ClassTable.RemakesFreely

variable {layout : RecordLayout} (remakes : classes.RemakesFreely base own r layout)

include remakes

theorem showsValues : ShowsValues classes base r.classId layout
    ((classes.changed base.changes).shownValues r) base own := by
  refine ⟨fun name v isValue => ?_, r, remakes.found, rfl, fun f mem isParameter => ?_⟩
  · exact shown_within remakes.closed remakes.found (remakes.shared name)
      (shownValues_eq_some_iff.mp isValue)
  · obtain ⟨v, shown⟩ := remakes.shows f mem isParameter
    exact ⟨v, shownValues_eq_some_iff.mpr shown, shown⟩

/-- If a constructor gets values for all parameters, it succeeds exactly if everything can be
set that it sets. -/
theorem construct_succeeds_iff {named : Entries String Value} (all : layout.IsGivenAll named)
    (kept : base.Keeps [] w) {place : Nat} (isNew : base.heap.next ≤ place)
    (there : w.HasInstance place r.classId) :
    ((classes.changed base.changes).construct layout r.classId place named).Succeeds w ↔
      ∀ f ∈ layout.fields, IsSet layout f →
        (classes.changed base.changes).CanBeSet r.classId f.name := by
  have generates := remakes.generates
  refine (ClassTable.construct_succeeds_iff remakes.closed generates.isFrozen remakes.defaults
    (fun f mem isSet => (generates.plain f mem isSet.1).setsThrough) isNew kept there rfl
    (fun hasAfterInit => ?_) all.each).trans (and_iff_right all.only)
  rw [remakes.noAfterInit] at hasAfterInit
  cases hasAfterInit

/-- The class can be called with values for all parameters exactly if it does not refuse to have
instances and everything can be set that its constructor sets. -/
theorem instantiate_succeeds_iff {named : Entries String Value} (all : layout.IsGivenAll named)
    (kept : base.Keeps [] w) :
    (classes.instantiate r.classId { named := named }).Succeeds w ↔
      (classes.changed base.changes).refusesInstances r.classId = false ∧
        ∀ f ∈ layout.fields, IsSet layout f →
          (classes.changed base.changes).CanBeSet r.classId f.name := by
  have generates := remakes.generates
  have current := classes.changed_eq_of_keeps kept
  have called := classes.instantiate_run (w := w) (by rw [current]; exact generates) named
  rw [current] at called
  have constructs := remakes.construct_succeeds_iff all (kept.trans (.allocated w _)) kept.growing
    ⟨_, w.heap.get?_allocate_next (.record { classId := r.classId }), rfl⟩
  have answered := Run.succeeds_bind_pure_iff
    ((classes.changed base.changes).construct layout r.classId w.heap.next named)
    (fun _ => Value.object w.heap.next)
    { w with heap := w.heap.allocate (.record { classId := r.classId }) }
  cases refuses : (classes.changed base.changes).refusesInstances r.classId with
  | true =>
    rw [refuses, if_pos rfl] at called
    exact iff_of_false (Run.not_succeeds_of_error called) (by simp)
  | false =>
    rw [refuses, if_neg Bool.false_ne_true] at called
    refine Iff.trans ?_ ((answered.trans constructs).trans (and_iff_right rfl).symm)
    simp only [Run.Succeeds, Run.Ends, called]

/-- Since the class can be called, it can be called at any later time with any values for all
parameters. It makes an instance that shows these. -/
theorem instantiate_ends {named : Entries String Value} (all : layout.IsGivenAll named)
    (kept : base.Keeps [] w)
    (within : ∀ f ∈ layout.fields, f.isParameter = true → ∀ v,
      Entries.get? named f.name = some v → v.Within base.heap.next) :
    ∃ w', (classes.instantiate r.classId { named := named }).Ends w (.object w.heap.next) w' ∧
      w.Keeps [] w' ∧ IsMade r.classId layout named w.heap.next w' := by
  obtain ⟨named₀, all₀, succeeds⟩ := remakes.isCallable
  have can := (remakes.instantiate_succeeds_iff all₀ (.refl [] base)).mp succeeds
  obtain ⟨result, w₁, ended⟩ := (remakes.instantiate_succeeds_iff all kept).mpr can
  -- What a call makes is told by comparing it with itself.
  have givenAlike : ∀ f ∈ layout.fields, f.isParameter = true → ∀ v v',
      Entries.get? named f.name = some v → Entries.get? named f.name = some v' →
      w.heap.Alike w.heap v v' := by
    intro f mem isParameter v v' isGiven isGiven'
    obtain rfl : v = v' := Option.some.inj (isGiven.symm.trans isGiven')
    exact remakes.closed.alike_self kept kept (within f mem isParameter v isGiven)
  obtain ⟨w', ended', kept', isMade, -⟩ := instantiate_again remakes.closed remakes.defaults all all
    remakes.generates remakes.settles kept kept givenAlike ended
  exact ⟨w', ended', kept', isMade⟩

/-- What a record shows for all parameters but one, and another value for that one, are
arguments for all parameters. -/
theorem exists_arguments (kept : base.Keeps [] w) {place : Nat}
    (shows : ShowsValues classes base r.classId layout values w place)
    (isParameter : ∃ f ∈ layout.fields, f.isParameter = true ∧ f.name = name) (v : Value) :
    ∃ others, (classes.keptArgumentsOf (.object place) [name] layout.fields).Ends w others w ∧
      layout.IsGivenAll ((name, v) :: others) ∧
      ∀ f ∈ layout.fields, f.isParameter = true →
        Entries.get? ((name, v) :: others) f.name =
          Function.update values name (some v) f.name := by
  obtain ⟨-, r', found, sameClass, shown⟩ := shows
  have table := classes.changed_eq_of_keeps kept
  have generates := remakes.generates
  have plain : ∀ f ∈ layout.fields, f.isParameter = true →
      (classes.changed w.changes).ReadsPlainly r'.classId f.name := by
    intro f mem isParameter
    rw [sameClass]
    exact remakes.readsPlainly kept mem isParameter
  obtain ⟨others, areKept, keepsShown⟩ := exists_keptArgumentsOf_one found generates.noInitOnly
    plain generates.distinct isParameter fun f mem isParameter _ => by
      obtain ⟨u, -, isShown⟩ := shown f mem isParameter
      exact ⟨u, by rw [table]; exact isShown⟩
  rw [table] at keepsShown
  obtain ⟨each, only⟩ := keepsShown.arguments isParameter v
  refine ⟨others, areKept, ⟨fun f mem isParameter => ?_, only⟩, fun f mem isParameter => ?_⟩
  · obtain ⟨u, isGiven, -⟩ := each f mem isParameter
    exact ⟨u, isGiven⟩
  · obtain ⟨u, isGiven, ⟨sameName, rfl⟩ | ⟨other, isShown⟩⟩ := each f mem isParameter
    · rw [isGiven, sameName, Function.update_self]
    · obtain ⟨u', isValue, isShown'⟩ := shown f mem isParameter
      obtain rfl : u = u' := Except.ok.inj (isShown.symm.trans isShown')
      rw [isGiven, Function.update_of_ne other, isValue]

/-- Records that were made of the same values are alike. -/
theorem alike {place place' : Nat}
    (made : MadeOfValues classes base r.classId layout values w place)
    (made' : MadeOfValues classes base r.classId layout values w' place') :
    w.heap.Alike w'.heap (.object place) (.object place') := by
  obtain ⟨⟨within, -⟩, named, u, u₁, since, all, due, ended, kept⟩ := made
  obtain ⟨-, named', u', u₁', since', all', due', ended', kept'⟩ := made'
  have givenAlike : ∀ f ∈ layout.fields, f.isParameter = true → ∀ v v',
      Entries.get? named f.name = some v → Entries.get? named' f.name = some v' →
      u.heap.Alike u'.heap v v' := by
    intro f mem isParameter v v' isGiven isGiven'
    rw [due f mem isParameter] at isGiven
    rw [due' f mem isParameter] at isGiven'
    obtain rfl : v = v' := Option.some.inj (isGiven.symm.trans isGiven')
    exact remakes.closed.alike_self since since' (within _ v isGiven)
  obtain ⟨u₂, again, -, -, alike⟩ := instantiate_again remakes.closed remakes.defaults all all'
    remakes.generates remakes.settles since since' givenAlike ended
  obtain ⟨same, rfl⟩ := again.unique ended'
  rw [same] at alike
  exact alike.later kept kept'

/-- Calling the class of a record again replaces its values field by field. -/
theorem isFieldwise :
    Replacer.IsFieldwise classes.replaceField classes base r (layout.parameters.map (·.name))
      (ShowsValues classes base r.classId layout) (MadeOfValues classes base r.classId layout) where
  replaces {values w place name v} kept shows mem within := by
    obtain ⟨f, isField, isParameter, rfl⟩ := (RecordLayout.mem_names_parameters_iff name).mp mem
    obtain ⟨others, areKept, all, due⟩ :=
      remakes.exists_arguments kept shows ⟨f, isField, isParameter, rfl⟩ v
    have areWithin := shows.1.update f.name within
    obtain ⟨w', ended, kept', r', found, isClass, same⟩ :=
      remakes.instantiate_ends all kept fun g inLayout isParameter u isGiven =>
        areWithin g.name u ((due g inLayout isParameter).symm.trans isGiven)
    obtain ⟨-, r₁, found₁, sameClass, -⟩ := shows
    have isRecord := remakes.isRecord
    rw [← sameClass] at isRecord
    refine ⟨w.heap.next, w', ?_, kept',
      ⟨areWithin, r', found, isClass, fun g inLayout isParameter => ?_⟩,
      _, w, w', kept, all, due, ended, .refl [] w'⟩
    · rw [replaceField_eq, Run.Ends, replaceFields_run found₁ isRecord, sameClass]
      exact areKept.bind ended
    · obtain ⟨u, isGiven⟩ := all.each g inLayout isParameter
      exact ⟨u, (due g inLayout isParameter).symm.trans isGiven,
        shown_of_get? ((same g inLayout isParameter).trans isGiven)⟩
  holds made := made.1
  isOfClass shows := by
    obtain ⟨-, r', found, sameClass, -⟩ := shows
    exact ⟨r', found, sameClass⟩
  reads {values w place name} kept shows mem := by
    obtain ⟨-, r', found, sameClass, shown⟩ := shows
    obtain ⟨f, isField, isParameter, rfl⟩ := (RecordLayout.mem_names_parameters_iff name).mp mem
    obtain ⟨v, isValue, isShown⟩ := shown f isField isParameter
    have plain := remakes.readsPlainly kept isField isParameter
    rw [← sameClass] at plain
    rw [readAttribute_run plain found, classes.changed_eq_of_keeps kept, isShown]
    show _ = (shownStoring _ r f.name (values f.name), w)
    rw [isValue]
    rfl
  alike _ _ made made' := remakes.alike made made'

end ClassTable.RemakesFreely

end ObjectMapping
