import ObjectMapping.Proofs.Class.CallingAgain
import ObjectMapping.Proofs.Class.Remaking
import ObjectMapping.Proofs.Mapping.ReplacementResults
import ObjectMapping.Proofs.Value.Mirroring

/-!
# Lawful replacement

A target that a run has made may be replaced with each property that is written. It does
not matter when that is done if the replacer is lawful (`Replacer.IsLawful`): it writes no
object that there was, and makes of targets that correspond and values that are alike
targets that correspond again (`TwinTargets`).

Changed copies of models are lawful (`ClassTable.isLawful_copyWithUpdate`), and so is calling
the class of a frozen record again, if the constructor does nothing but store the values
of all fields (`ClassTable.isLawful_replaceField`).
-/

namespace ObjectMapping

/-- Two runs since a base are at instances of a class that they have made, and these
correspond. -/
structure TwinTargets (base u u' w w' : World) (c : ClassId) (related : Nat → Nat → Prop)
    (own own' : Nat) : Prop where
  twins : Twins base u u' w w' related
  isRelated : related own own'
  isNew : u.heap.next ≤ own
  isOfClass : ∃ r, w.heap.get? own = some (.record r) ∧ r.classId = c

/-- Replacing a property of an instance of the class that was made since the base makes such
an instance again and writes no object that there was. If it succeeds, it does so too for a
target that corresponds and a value that is alike, and makes one that corresponds. -/
def Replacer.IsLawful (replacer : Replacer) (base : World) (c : ClassId) (name : String) : Prop :=
  ∀ ⦃u u' w w' z : World⦄ ⦃related : Nat → Nat → Prop⦄ ⦃own own' : Nat⦄ ⦃v v' answer : Value⦄,
    TwinTargets base u u' w w' c related own own' → v.AlikeBy related v' →
    (replacer (.object own) name v).Ends w answer z →
    ∃ place place' z' later, answer = .object place ∧
      (replacer (.object own') name v').Ends w' (.object place') z' ∧
      w.Keeps [] z ∧ w'.Keeps [] z' ∧ TwinTargets base u u' z z' c later place place'

variable {classes : ClassTable Code} {base u u' w w' z : World} {c : ClassId}
  {related later : Nat → Nat → Prop} {own own' : Nat}

/-! ## Targets that correspond -/

/-- Values that are alike can be put under a name. -/
theorem Instance.AlikeBy.put {r r' : Instance} (alike : r.AlikeBy related r') (name : String)
    {v v' : Value} (values : v.AlikeBy related v') :
    Instance.AlikeBy related { r with attributes := Entries.put r.attributes name v }
      { r' with attributes := Entries.put r'.attributes name v' } where
  classId := alike.classId
  attributes := by
    intro other
    by_cases same : name = other
    · subst same
      rw [Entries.get?_put_self, Entries.get?_put_self]
      exact .some values
    · rw [Entries.get?_put_of_ne _ _ same, Entries.get?_put_of_ne _ _ same]
      exact alike.attributes other
  apart := alike.apart
  isPrepared := alike.isPrepared

namespace TwinTargets

variable (targets : TwinTargets base u u' w w' c related own own')

include targets

/-- Both targets are instances of the class, and they are alike. -/
theorem exists_alike : ∃ r r', w.heap.get? own = some (.record r) ∧
    w'.heap.get? own' = some (.record r') ∧ r.AlikeBy related r' ∧ r.classId = c := by
  obtain ⟨object, object', found, found', objects⟩ :=
    targets.twins.isMatched own own' targets.isRelated
  obtain ⟨r, isInstance, isOfClass⟩ := targets.isOfClass
  obtain rfl : Object.record r = object := Option.some.inj (isInstance.symm.trans found)
  cases objects with
  | record alike => exact ⟨r, _, found, found', alike, isOfClass⟩

theorem isNew' : u'.heap.next ≤ own' := by
  rcases targets.twins.origin own own' targets.isRelated with ⟨-, old⟩ | ⟨-, isNew'⟩
  · have since := targets.twins.since.growing
    have isNew := targets.isNew
    omega
  · exact isNew'

/-- Further runs that keep all objects leave the targets. -/
theorem append {z z' : World} (rest : Twins base w w' z z' later) :
    TwinTargets base u u' z z' c (fun a b => related a b ∨ later a b) own own' where
  twins := targets.twins.append rest
  isRelated := .inl targets.isRelated
  isNew := targets.isNew
  isOfClass := by
    obtain ⟨r, found, isOfClass⟩ := targets.isOfClass
    exact ⟨r, rest.kept.found found, isOfClass⟩

/-- Two new instances of the class that are alike correspond. -/
theorem make {z z' : World} (kept : w.Keeps [] z) (kept' : w'.Keeps [] z') {place place' : Nat}
    (isNew : w.heap.next ≤ place) (isNew' : w'.heap.next ≤ place') {r r' : Instance}
    (found : z.heap.get? place = some (.record r))
    (found' : z'.heap.get? place' = some (.record r')) (alike : r.AlikeBy related r')
    (isOfClass : r.classId = c) :
    TwinTargets base u u' z z' c (fun a b => related a b ∨ a = place ∧ b = place')
      place place' where
  twins := targets.twins.make kept kept' isNew isNew' found found' (.record alike)
  isRelated := .inr ⟨rfl, rfl⟩
  isNew := Nat.le_trans targets.twins.kept.growing isNew
  isOfClass := ⟨r, found, isOfClass⟩

/-- Instances that are alike can be written in both places. -/
theorem set {r r' : Instance} (alike : r.AlikeBy related r') (isOfClass : r.classId = c) :
    TwinTargets base u u' { w with heap := w.heap.set own (.record r) }
      { w' with heap := w'.heap.set own' (.record r') } c related own own' where
  twins := targets.twins.write targets.isRelated targets.isNew targets.isNew' alike
  isRelated := targets.isRelated
  isNew := targets.isNew
  isOfClass := ⟨r, Heap.get?_set_self _ (targets.twins.lt_next targets.isRelated).1, isOfClass⟩

end TwinTargets

/-! ## Copies of models -/

/-- Copies of models with one value changed replace them lawfully. -/
theorem ClassTable.isLawful_copyWithUpdate [Packages] (lawful : Packages.CopiesModels)
    (classes : ClassTable Code) (base : World) (c : ClassId) (name : String) :
    Replacer.IsLawful classes.copyWithUpdate base c name := by
  intro u u' w w' z related own own' v v' answer targets values ended
  obtain ⟨r, r', found, found', alike, isOfClass⟩ := targets.exists_alike
  obtain ⟨isModel, succeeds⟩ := (copyWithUpdate_succeeds_iff found).mp ended.succeeds
  have again : (classes.copyWithUpdate (.object own') name v').Succeeds w' :=
    (copyWithUpdate_succeeds_iff found').mpr ⟨alike.classId ▸ isModel,
      lawful.alike found found' alike.classId alike.isPrepared succeeds⟩
  obtain ⟨answer', z', ended'⟩ := again
  obtain ⟨place, rfl, isNew, kept, made⟩ := copyWithUpdate_ends_new lawful found ended
  obtain ⟨place', rfl, isNew', kept', made'⟩ := copyWithUpdate_ends_new lawful found' ended'
  have next := targets.make kept kept' isNew isNew' made made' (alike.put name values) isOfClass
  exact ⟨place, place', z', _, rfl, ended', kept, kept', next⟩

/-! ## Records that are called again -/

/-- Frozen records of which the constructor is generated, stores the values that it is given
for all fields and has no code behind it. What objects and the class hold has been made. -/
structure ClassTable.StoresAllFields [Packages] (classes : ClassTable Code) (base : World)
    (c : ClassId) (layout : RecordLayout) : Prop where
  isRecord : classes.recordLayout? c = some layout
  generates : (classes.changed base.changes).Generates c layout
  noAfterInit : layout.hasAfterInit = false
  areParameters : ∀ f ∈ layout.fields, f.kind = .stored → f.isParameter = true
  closed : base.heap.Closed
  shared : ∀ name owner v,
    (classes.changed base.changes).owned? c name = some (owner, .constant v) →
    v.Within base.heap.next

/-- What instances show that are alike is alike. -/
theorem ClassTable.exists_shown_of_alike {table : ClassTable Code} {r r' : Instance} {name : String}
    (alike : r.AlikeBy related r')
    (shared : ∀ owner v, table.owned? r.classId name = some (owner, .constant v) →
      v.AlikeBy related v) {v : Value} (shown : table.shown r name = .ok v) :
    ∃ v', table.shown r' name = .ok v' ∧ v.AlikeBy related v' := by
  have stored := alike.attributes name
  have apart := alike.apart name
  rw [ClassTable.shown] at shown ⊢
  rw [← alike.classId]
  generalize table.owned? r.classId name = owned? at shared shown ⊢
  generalize Entries.get? r.attributes name = stored?, Entries.get? r'.attributes name = stored?'
    at stored shown ⊢
  generalize Entries.get? r.apart name = apart?, Entries.get? r'.apart name = apart?'
    at apart shown ⊢
  cases stored with
  | some both =>
    cases shown
    exact ⟨_, rfl, both⟩
  | none =>
    rcases owned? with _ | ⟨owner, m⟩
    · cases apart with
      | none => cases shown
      | some both =>
        cases shown
        exact ⟨_, rfl, both⟩
    · cases m with
      | constant =>
        cases shown
        exact ⟨_, rfl, shared owner _ rfl⟩
      | column | abstractMethod =>
        cases shown
        exact ⟨_, rfl, .self (by simp [Value.addresses])⟩
      | property | collection | slot =>
        cases apart with
        | none => cases shown
        | some both =>
          cases shown
          exact ⟨_, rfl, both⟩

/-- Arguments give parameters values that are alike. -/
def RecordLayout.GivesAlike (layout : RecordLayout) (related : Nat → Nat → Prop)
    (named named' : Entries String Value) : Prop :=
  ∀ f ∈ layout.fields, f.isParameter = true → ∃ v v', Entries.get? named f.name = some v ∧
    Entries.get? named' f.name = some v' ∧ v.AlikeBy related v'

section Constructing

variable [Packages] {layout : RecordLayout} {named named' : Entries String Value}

namespace TwinTargets

variable (targets : TwinTargets base u u' w w' c related own own')

include targets

/-- If a value can be stored in one target past all guards, one that is like it can be stored
in the other. -/
theorem storeUnguarded {name : String} (plain : (classes.changed base.changes).ReadsPlainly c name)
    {v v' : Value} (values : v.AlikeBy related v')
    (ended : ((classes.changed base.changes).storeUnguarded (.object own) name v).Ends w () z) :
    ∃ z', ((classes.changed base.changes).storeUnguarded (.object own') name v').Ends w' () z' ∧
      w.Keeps [own] z ∧ w'.Keeps [own'] z' ∧ TwinTargets base u u' z z' c related own own' := by
  obtain ⟨r, r', found, found', alike, rfl⟩ := targets.exists_alike
  have table := (classes.changed base.changes).changed_eq_of_keeps
    (targets.twins.since.trans targets.twins.kept)
  have table' := (classes.changed base.changes).changed_eq_of_keeps
    (targets.twins.since'.trans targets.twins.kept')
  have notClass := ne_classAttribute_of_uncommon plain.uncommon
  -- Storing takes the changes up once more, on a table that has them already.
  have passive := plain.isPassive base.changes
  have first := ClassTable.storeUnguarded_run v notClass found (by rwa [table])
  have second := ClassTable.storeUnguarded_run v' notClass found' (by rwa [table', ← alike.classId])
  rw [table] at first
  rw [table'] at second
  rw [Run.Ends, first] at ended
  split at ended
  · next place =>
    rw [if_pos (alike.classId ▸ place)] at second
    cases ended
    exact ⟨_, second, .written w own _, .written w' own' _,
      targets.set (alike.put name values) rfl⟩
  · cases ended

/-- If one target is filled with the values of all fields, so is the other. -/
theorem fillRecord (storesAll : classes.StoresAllFields base c layout)
    (alike : layout.GivesAlike related named named') {fields : List RecordField}
    (listed : fields ⊆ layout.fields)
    (ended : ((classes.changed base.changes).fillRecord layout (.object own) named fields).Ends w
      () z) :
    ∃ z', ((classes.changed base.changes).fillRecord layout (.object own') named' fields).Ends w'
        () z' ∧
      w.Keeps [own] z ∧ w'.Keeps [own'] z' ∧ TwinTargets base u u' z z' c related own own' := by
  induction fields generalizing w w' with
  | nil =>
    cases ended
    exact ⟨w', rfl, .refl _ _, .refl _ _, targets⟩
  | cons f rest ih =>
    obtain ⟨inLayout, restListed⟩ := List.cons_subset.mp listed
    have isFrozen := storesAll.generates.isFrozen
    rw [ClassTable.fillRecord_cons _ isFrozen] at ended
    rw [ClassTable.fillRecord_cons _ isFrozen]
    by_cases isStored : f.kind = .stored
    · have isParameter := storesAll.areParameters f inLayout isStored
      have accepted : f.accepted = true := by
        simp [RecordField.isParameter, isStored] at isParameter
        exact isParameter
      obtain ⟨v, v', isGiven, isGiven', values⟩ := alike f inLayout isParameter
      simp only [ClassTable.valueSource?, isStored, accepted, isGiven, isGiven', if_true,
        Option.getD_some, pure_bind] at ended ⊢
      obtain ⟨⟨⟩, w₁, stored, ended⟩ := Run.Ends.exists_of_bind ended
      obtain ⟨w₁', stored', keeps, keeps', next⟩ :=
        targets.storeUnguarded (storesAll.generates.plain f inLayout isStored) values stored
      obtain ⟨z', ended', keepsRest, keepsRest', last⟩ := ih next restListed ended
      exact ⟨z', Run.Ends.bind stored' ended', keeps.trans keepsRest, keeps'.trans keepsRest', last⟩
    · simp only [ClassTable.valueSource?, isStored, if_false] at ended ⊢
      exact ih targets restListed ended

end TwinTargets

omit [Packages] in
/-- Parameters get what is alike. -/
theorem RecordLayout.GivesAlike.zip (alike : layout.GivesAlike related named named') :
    layout.GivesAlike related
      ((layout.parameters.map (·.name)).zip
        (layout.parameters.map fun p => (Entries.get? named p.name).getD .null))
      ((layout.parameters.map (·.name)).zip
        (layout.parameters.map fun p => (Entries.get? named' p.name).getD .null)) := by
  intro f mem isParameter
  obtain ⟨v, v', isGiven, isGiven', values⟩ := alike f mem isParameter
  have value := RecordLayout.get?_zip_parameters mem isParameter
    fun name => (Entries.get? named name).getD .null
  have value' := RecordLayout.get?_zip_parameters mem isParameter
    fun name => (Entries.get? named' name).getD .null
  rw [isGiven] at value
  rw [isGiven'] at value'
  exact ⟨v, v', value, value', values⟩

variable (storesAll : classes.StoresAllFields base c layout)

include storesAll

/-- If the class can be called, it can be called with values that are alike, and what it makes
corresponds. -/
theorem TwinTargets.instantiate (targets : TwinTargets base u u' w w' c related own own')
    (all : layout.IsGivenAll named) (all' : layout.IsGivenAll named')
    (alike : layout.GivesAlike related named named') {answer : Value}
    (ended : (classes.instantiate c { named := named }).Ends w answer z) :
    ∃ place place' z' later, answer = .object place ∧
      (classes.instantiate c { named := named' }).Ends w' (.object place') z' ∧
      w.Keeps [] z ∧ w'.Keeps [] z' ∧ TwinTargets base u u' z z' c later place place' := by
  have table := classes.changed_eq_of_keeps (targets.twins.since.trans targets.twins.kept)
  have table' := classes.changed_eq_of_keeps (targets.twins.since'.trans targets.twins.kept')
  have generates := storesAll.generates
  have called := classes.instantiate_run (w := w) (by rwa [table]) named
  have called' := classes.instantiate_run (w := w') (by rwa [table']) named'
  rw [table] at called
  rw [table'] at called'
  rw [Run.Ends, called] at ended
  split at ended
  · cases ended
  · next accepted =>
    rw [if_neg accepted] at called'
    obtain ⟨⟨⟩, z₁, constructed, isResult⟩ := Run.Ends.exists_of_bind ended
    cases isResult
    rw [ClassTable.construct] at constructed
    obtain ⟨values, w₁, bound, constructed⟩ := constructed.exists_of_bind
    obtain ⟨rfl, rfl⟩ := (all.bindAll_ends _ _).unique bound
    obtain ⟨⟨⟩, w₂, isFilled, settled⟩ := constructed.exists_of_bind
    rw [storesAll.noAfterInit] at settled
    cases settled
    have allocated := World.Keeps.allocated w (.record { classId := c })
    have allocated' := World.Keeps.allocated w' (.record { classId := c })
    have empty := targets.make allocated allocated' (Nat.le_refl _) (Nat.le_refl _)
      (w.heap.get?_allocate_next _) (w'.heap.get?_allocate_next _)
      ⟨rfl, fun _ => .none, fun _ => .none, rfl⟩ rfl
    have wider : layout.GivesAlike
        (fun a b => related a b ∨ a = w.heap.next ∧ b = w'.heap.next) named named' := by
      intro f mem isParameter
      obtain ⟨v, v', isGiven, isGiven', values⟩ := alike f mem isParameter
      exact ⟨v, v', isGiven, isGiven', values.mono fun _ _ => .inl⟩
    obtain ⟨z', isFilled', keeps, keeps', filled⟩ :=
      empty.fillRecord storesAll wider.zip (List.Subset.refl _) isFilled
    refine ⟨w.heap.next, w'.heap.next, z', _, rfl, ?_, allocated.trans_new (Nat.le_refl _) keeps,
      allocated'.trans_new (Nat.le_refl _) keeps', filled⟩
    rw [Run.Ends, called']
    have constructed' : ((classes.changed base.changes).construct layout c w'.heap.next named').Ends
        { w' with heap := w'.heap.allocate (.record { classId := c }) } () z' := by
      rw [ClassTable.construct]
      refine (all'.bindAll_ends _ _).bind (isFilled'.bind ?_)
      rw [storesAll.noAfterInit]
      rfl
    exact constructed'.bind rfl

/-- Instances that are alike keep values that are alike. -/
theorem TwinTargets.keptArgumentsOf (targets : TwinTargets base u u' w w' c related own own')
    (since : ∀ a < base.heap.next, related a a) {name : String} {kept : Entries String Value}
    (ended : (classes.keptArgumentsOf (.object own) [name] layout.fields).Ends w kept z) :
    z = w ∧ ((∃ f ∈ layout.fields, f.isParameter = true ∧ f.name = name) →
      ∃ kept', (classes.keptArgumentsOf (.object own') [name] layout.fields).Ends w' kept' w' ∧
        (∀ entry ∈ kept', ∃ f ∈ layout.fields, f.isParameter = true ∧ f.name = entry.1) ∧
        ∀ f ∈ layout.fields, f.isParameter = true → f.name ≠ name → ∃ v v',
          Entries.get? kept f.name = some v ∧ Entries.get? kept' f.name = some v' ∧
          v.AlikeBy related v') := by
  obtain ⟨r, r', found, found', alike, rfl⟩ := targets.exists_alike
  have generates := storesAll.generates
  have table := classes.changed_eq_of_keeps (targets.twins.since.trans targets.twins.kept)
  have table' := classes.changed_eq_of_keeps (targets.twins.since'.trans targets.twins.kept')
  have plain : ∀ f ∈ layout.fields, f.isParameter = true →
      (classes.changed base.changes).ReadsPlainly r.classId f.name := fun f mem isParameter =>
    generates.plain f mem (f.isStored_of_isParameter (generates.noInitOnly f mem) isParameter)
  obtain ⟨rfl, keeps⟩ := ClassTable.KeepsShown.of_ends found generates.noInitOnly
    (by rwa [table]) generates.distinct ended
  rw [table] at keeps
  have shows (f : RecordField) (mem : f ∈ layout.fields) (isParameter : f.isParameter = true)
      (other : f.name ≠ name) : ∃ v v', Entries.get? kept f.name = some v ∧
        (classes.changed base.changes).shown r' f.name = .ok v' ∧ v.AlikeBy related v' := by
    obtain ⟨v, shown, isKept⟩ := keeps.each f mem isParameter (by simpa using other)
    obtain ⟨v', shown', values⟩ := ClassTable.exists_shown_of_alike alike
      (fun owner v owned => .self fun a mem =>
        since a (storesAll.shared f.name owner v owned a mem)) shown
    exact ⟨v, v', isKept, shown', values⟩
  refine ⟨rfl, fun isParameter => ?_⟩
  obtain ⟨kept', ended', keeps'⟩ := ClassTable.exists_keptArgumentsOf_one found'
    generates.noInitOnly (by rwa [table', ← alike.classId]) generates.distinct isParameter
    fun f mem isParameter other => by
      obtain ⟨_, v', -, shown', -⟩ := shows f mem isParameter other
      exact ⟨v', by rwa [table']⟩
  rw [table'] at keeps'
  refine ⟨kept', ended', fun entry mem => ?_, fun f mem isParameter other => ?_⟩
  · obtain ⟨f, inLayout, isParameter, sameName, -⟩ := keeps'.only entry mem
    exact ⟨f, inLayout, isParameter, sameName⟩
  · obtain ⟨v, v', isKept, shown', values⟩ := shows f mem isParameter other
    obtain ⟨v'', shown'', isKept'⟩ := keeps'.each f mem isParameter (by simpa using other)
    obtain rfl : v' = v'' := Except.ok.inj (shown'.symm.trans shown'')
    exact ⟨v, v', isKept, isKept', values⟩

/-- Frozen records that store the values of all fields are replaced lawfully. -/
theorem ClassTable.isLawful_replaceField (name : String) :
    Replacer.IsLawful classes.replaceField base c name := by
  intro u u' w w' z related own own' v v' answer targets values ended
  -- Values that instances share with their class are of the base.
  have wider := targets.append (storesAll.closed.twins_self
    (targets.twins.since.trans targets.twins.kept)
    (targets.twins.since'.trans targets.twins.kept'))
  have since (a : Nat) (old : a < base.heap.next) :
      related a a ∨ (a = a ∧ a < base.heap.next) := .inr ⟨rfl, old⟩
  obtain ⟨r, r', found, found', alike, isOfClass⟩ := wider.exists_alike
  have isRecord := storesAll.isRecord
  have replaces := replaceFields_run found (by rwa [isOfClass]) [(name, v)]
  have replaces' := replaceFields_run found' (by rwa [← alike.classId, isOfClass]) [(name, v')]
  rw [isOfClass] at replaces
  rw [← alike.classId, isOfClass] at replaces'
  rw [classes.replaceField_eq, Run.Ends, replaces] at ended
  obtain ⟨kept, w₁, areKept, called⟩ := Run.Ends.exists_of_bind ended
  obtain ⟨rfl, keeps⟩ := wider.keptArgumentsOf storesAll since areKept
  have table := classes.changed_eq_of_keeps (targets.twins.since.trans targets.twins.kept)
  have areParameters := classes.exists_parameter_of_instantiate_ends
    (by rw [table]; exact storesAll.generates) called
  obtain ⟨kept', areKept', areParameters', likewise⟩ :=
    keeps (areParameters (name, v) List.mem_cons_self)
  have gives : layout.GivesAlike (fun a b => related a b ∨ a = b ∧ a < base.heap.next)
      ([(name, v)] ++ kept) ([(name, v')] ++ kept') := by
    intro f mem isParameter
    by_cases same : name = f.name
    · exact ⟨v, v', by simp [Entries.get?, same], by simp [Entries.get?, same],
        values.mono fun _ _ => .inl⟩
    · obtain ⟨x, x', isKept, isKept', alike⟩ := likewise f mem isParameter (Ne.symm same)
      exact ⟨x, x', by simpa [Entries.get?, same] using isKept,
        by simpa [Entries.get?, same] using isKept', alike⟩
  have all : layout.IsGivenAll ([(name, v)] ++ kept) := by
    refine ⟨fun f mem isParameter => ?_, areParameters⟩
    obtain ⟨x, -, isGiven, -⟩ := gives f mem isParameter
    exact ⟨x, isGiven⟩
  have all' : layout.IsGivenAll ([(name, v')] ++ kept') := by
    refine ⟨fun f mem isParameter => ?_, fun entry mem => ?_⟩
    · obtain ⟨-, x', -, isGiven, -⟩ := gives f mem isParameter
      exact ⟨x', isGiven⟩
    · rcases List.mem_cons.mp mem with rfl | later
      · exact areParameters (name, v) List.mem_cons_self
      · exact areParameters' entry later
  obtain ⟨place, place', z', later, rfl, called', keepsAll, keepsAll', made⟩ :=
    wider.instantiate storesAll all all' gives called
  refine ⟨place, place', z', later, rfl, ?_, keepsAll, keepsAll', made⟩
  rw [classes.replaceField_eq, Run.Ends, replaces']
  exact Run.Ends.bind areKept' called'

end Constructing

end ObjectMapping
