import ObjectMapping.Proofs.Mapping.Course

/-!
# Filling a target

What a run of setters leaves in a target. The target may be filled in place or
be replaced with each property; `MadeTarget.Reaches` is what holds of it
meanwhile in both cases. A setter then changes its own property and no other
(`setter_ends`), and so setters of different names do not disturb each other
(`setters_end`).

Nothing is assumed of how values are read but that reading leaves objects alone
and takes no notice of what the setters before it did.
-/

namespace ObjectMapping

/-- A target as its factory leaves it, and the world by then. -/
structure MadeTarget where
  world : World
  address : Nat
  original : Instance
  found : world.heap.get? address = some (.record original)

/-- The target is by now the instance at an address, and no object has changed
but those at some addresses. While objects change, the target stays where it is. -/
structure MadeTarget.Reaches (made : MadeTarget) (touched : List Nat) (w : World)
    (address : Nat) (r : Instance) : Prop where
  kept : made.world.Keeps touched w
  inPlace : touched ≠ [] → address = made.address
  found : w.heap.get? address = some (.record r)
  sameClass : r.classId = made.original.classId
  sameApart : r.apart = made.original.apart
  samePreparation : r.isPrepared = made.original.isPrepared
  holding : ∀ name, (Entries.get? made.original.attributes name).isSome →
    (Entries.get? r.attributes name).isSome

/-- Replacing a property of the target, at whatever point of filling it, gives an
instance that differs in that property alone, and changes no object. -/
def MadeTarget.ReplacedBy (made : MadeTarget) (replacer : Value → String → Value → Run Value)
    (name : String) : Prop :=
  ∀ w address r v, made.Reaches [] w address r →
    ∃ address' r' w', (replacer (.object address) name v).Ends w (.object address') w' ∧
      w'.heap.get? address' = some (.record r') ∧ r.DiffersAt name v r' ∧ w.Keeps [] w'

/-- Writing the property sets it to the value and does nothing else, and touches no
more than the objects at some addresses. -/
inductive TargetProperty.WritesPlainly [Packages] (classes : ClassTable Code) (made : MadeTarget)
    (t : TargetProperty) : List Nat → Prop where
  | inPlace (mode : t.mode = .assignment)
      (plain : (classes.changed made.world.changes).StoresPlainly made.original.classId t.name) :
      WritesPlainly classes made t [made.address]
  | anew {replacer} (mode : t.mode = .replacement replacer)
      (replaces : made.ReplacedBy replacer t.name) : WritesPlainly classes made t []

/-- While the target is filled, the property always reads as one of some values,
and reading it changes no object. -/
def SourceProperty.ReadsPurely (p : SourceProperty) (made : MadeTarget) (touched : List Nat)
    (source : Value) (values : Value → Prop) : Prop :=
  ∀ w, made.world.Keeps touched w →
    ∃ v w', (p.reader source).Ends w v w' ∧ values v ∧ w.Keeps [] w'

namespace MadeTarget.Reaches

variable {made : MadeTarget} {touched : List Nat} {w w' : World} {address : Nat} {r : Instance}

theorem start (made : MadeTarget) (touched : List Nat) :
    made.Reaches touched made.world made.address made.original :=
  ⟨.refl _ _, fun _ => rfl, made.found, rfl, rfl, rfl, fun _ holding => holding⟩

/-- What changes no object does not change the target. -/
theorem undisturbed (reaches : made.Reaches touched w address r) (kept : w.Keeps [] w') :
    made.Reaches touched w' address r := {
  reaches with
  kept := reaches.kept.trans (kept.of_all touched)
  found := kept.found reaches.found }

/-- The target goes on as an instance that differs in one property. -/
theorem changed {name : String} {v : Value} {address' : Nat} {r' : Instance}
    (reaches : made.Reaches touched w address r) (differs : r.DiffersAt name v r')
    (kept : made.world.Keeps touched w') (inPlace : touched ≠ [] → address' = made.address)
    (found : w'.heap.get? address' = some (.record r')) :
    made.Reaches touched w' address' r' where
  kept := kept
  inPlace := inPlace
  found := found
  sameClass := differs.sameClass.trans reaches.sameClass
  sameApart := differs.sameApart.trans reaches.sameApart
  samePreparation := differs.samePreparation.trans reaches.samePreparation
  holding := by
    intro other holding
    by_cases same : other = name
    · rw [same, differs.changed]
      rfl
    · rw [differs.others other same]
      exact reaches.holding other holding

end MadeTarget.Reaches

variable {classes : ClassTable Code} {made : MadeTarget} {touched : List Nat}

/-- Writing a property changes the target in that property. The old target is
still an instance of its class. -/
theorem TargetProperty.WritesPlainly.write_ends [Packages] {t : TargetProperty} {w : World}
    {address : Nat} {r : Instance} (writes : t.WritesPlainly classes made touched)
    (reaches : made.Reaches touched w address r) (source v : Value) :
    ∃ address' r' w', (t.write classes (.object address) source v).Ends w (.object address') w' ∧
      made.Reaches touched w' address' r' ∧ r.DiffersAt t.name v r' ∧
      ∃ old, w'.heap.get? address = some (.record old) ∧ old.classId = r.classId := by
  cases writes with
  | inPlace mode plain =>
    obtain rfl : address = made.address := reaches.inPlace (by simp)
    rw [← reaches.sameClass, ← reaches.kept.changes] at plain
    have stored := ClassTable.writeAttribute_ends v plain reaches.found
    have differs := r.differsAt_put t.name v
    have found := Heap.get?_set_self
      (.record { r with attributes := Entries.put r.attributes t.name v })
      (Heap.lt_next_of_get?_eq_some reaches.found)
    have kept := reaches.kept.replaced
      (.record { r with attributes := Entries.put r.attributes t.name v })
      (.inl List.mem_cons_self)
    refine ⟨made.address, _, _, ?_, reaches.changed differs kept (fun _ => rfl) found, differs,
      _, found, rfl⟩
    rw [t.write_of_assignment mode]
    exact stored.bind (Run.ends_pure _ _)
  | anew mode replaces =>
    obtain ⟨address', r', w', replaced, found, differs, kept⟩ := replaces w address r v reaches
    refine ⟨address', r', w', ?_,
      reaches.changed differs (reaches.kept.trans kept) (absurd rfl) found,
      differs, r, kept.found reaches.found, rfl⟩
    rw [t.write_of_replacement mode]
    exact replaced

/-- No code of its own does that. -/
theorem TargetProperty.WritesPlainly.takesReader_eq_false [Packages] {t : TargetProperty}
    (writes : t.WritesPlainly classes made touched) : t.mode.takesReader = false := by
  cases writes with
  | inPlace mode => rw [mode]; rfl
  | anew mode => rw [mode]; rfl

/-- Reading a stored attribute of an object that stays untouched is pure. -/
theorem SourceProperty.readsPurely_of_stored [Packages] (classes : ClassTable Code)
    {p : SourceProperty} {name : String}
    (reader : p.reader = fun source => classes.readAttribute source name) {address : Nat}
    {r : Instance} (found : made.world.heap.get? address = some (.record r))
    (untouched : address ∉ touched)
    (plain : (classes.changed made.world.changes).ReadsPlainly r.classId name)
    {v : Value} (stored : Entries.get? r.attributes name = some v) {values : Value → Prop}
    (isValue : values v) : p.ReadsPurely made touched (.object address) values := by
  intro w kept
  have stillFound : w.heap.get? address = some (.record r) := by
    rw [kept.others address (Heap.lt_next_of_get?_eq_some found) untouched, found]
  rw [← kept.changes] at plain
  refine ⟨v, w, ?_, isValue, .refl _ w⟩
  rw [reader, Run.Ends, ClassTable.readAttribute_run plain stillFound,
    ClassTable.shown_of_get? stored]

/-- A setter reads a value and sets its own property to it, and nothing else. -/
theorem setter_ends [Packages] {pair : PropertyPair} {w : World} {address : Nat} {r : Instance}
    {source : Value} {values : Value → Prop}
    (writes : pair.target.WritesPlainly classes made touched)
    (reads : pair.source.ReadsPurely made touched source values)
    (reaches : made.Reaches touched w address r) :
    ∃ address' r' w' v,
      (Stage.returningTarget classes (pair.setter classes) (.object address) source).Ends w
        (.object address') w' ∧
      made.Reaches touched w' address' r' ∧ values v ∧ r.DiffersAt pair.target.name v r' := by
  obtain ⟨v, w₁, read, isValue, kept⟩ := reads w reaches.kept
  obtain ⟨address', r', w₂, written, reaches', differs, old, foundOld, sameClass⟩ :=
    writes.write_ends (reaches.undisturbed kept) source v
  have keep : (keepTarget classes (.object address) (.object address')).Ends w₂
      (.object address') w₂ :=
    keepTarget_ends foundOld reaches'.found (differs.sameClass.trans sameClass.symm)
  have set : (pair.setter classes (.object address) source).Ends w (.object address') w₂ := by
    rw [PropertyPair.setter, TargetProperty.setter_eq_write writes.takesReader_eq_false]
    exact read.bind written
  exact ⟨address', r', w₂, v, set.bind keep, reaches', isValue, differs⟩

/-- Setters of different names each set their own property, and leave all others as
they were. -/
theorem setters_end [Packages] {source : Value} (values : String → Value → Prop)
    {pairs : List PropertyPair} (distinct : (pairs.map (·.target.name)).Nodup)
    (writes : ∀ pair ∈ pairs, pair.target.WritesPlainly classes made touched)
    (reads : ∀ pair ∈ pairs,
      pair.source.ReadsPurely made touched source (values pair.source.name))
    {w : World} {address : Nat} {r : Instance} (reaches : made.Reaches touched w address r) :
    ∃ address' r' w',
      (compose classes (pairs.map (·.setter classes)) (.object address) source).Ends w
        (.object address') w' ∧
      made.Reaches touched w' address' r' ∧
      (∀ pair ∈ pairs, ∃ v, Entries.get? r'.attributes pair.target.name = some v ∧
        values pair.source.name v) ∧
      ∀ name ∉ pairs.map (·.target.name),
        Entries.get? r'.attributes name = Entries.get? r.attributes name := by
  induction pairs generalizing w address r with
  | nil => exact ⟨address, r, w, Run.ends_pure _ _, reaches, by simp, fun _ _ => rfl⟩
  | cons pair rest ih =>
    obtain ⟨fresh, distinctRest⟩ := List.nodup_cons.mp distinct
    obtain ⟨address₁, r₁, w₁, v, first, reaches₁, isValue, differs⟩ :=
      setter_ends (writes pair List.mem_cons_self) (reads pair List.mem_cons_self) reaches
    obtain ⟨address₂, r₂, w₂, later, reaches₂, set, others⟩ :=
      ih distinctRest (fun other mem => writes other (List.mem_cons_of_mem _ mem))
        (fun other mem => reads other (List.mem_cons_of_mem _ mem)) reaches₁
    refine ⟨address₂, r₂, w₂, first.bind later, reaches₂, ?_, ?_⟩
    · intro other mem
      rcases List.mem_cons.mp mem with rfl | mem
      · exact ⟨v, (others _ fresh).trans differs.changed, isValue⟩
      · exact set other mem
    · intro name absent
      obtain ⟨different, absentRest⟩ := not_or.mp (List.mem_cons.not.mp absent)
      exact (others name absentRest).trans (differs.others name different)

/-- The target has become an instance of its class in which the attributes of some
names have values of their own, and all others are as the factory left them. -/
structure MadeTarget.Filled [Packages] (classes : ClassTable Code) (made : MadeTarget)
    (names : List String)
    (values : String → Value → Prop) (w : World) (address : Nat) (r : Instance) : Prop where
  found : w.heap.get? address = some (.record r)
  sameClass : r.classId = made.original.classId
  stored : ∀ n ∈ names, ∃ v, Entries.get? r.attributes n = some v ∧ values n v
  kept : ∀ n ∉ names, Entries.get? r.attributes n = Entries.get? made.original.attributes n
  /-- Where attributes read plainly, reading gives these values. -/
  reads : ∀ n ∈ names,
    (classes.changed made.world.changes).ReadsPlainly made.original.classId n →
    ∃ v, (classes.readAttribute (.object address) n).Ends w v w ∧ values n v
  /-- Reading another attribute gives what it gave when the target was made. -/
  readsAsMade : ∀ n ∉ names,
    (classes.changed made.world.changes).ReadsPlainly made.original.classId n →
    ((classes.readAttribute (.object address) n).run.run w).1 =
      ((classes.readAttribute (.object made.address) n).run.run made.world).1

/-- What is stored in the target decides how it reads. -/
theorem MadeTarget.Reaches.filled [Packages] {names : List String} {values : String → Value → Prop}
    {w : World} {address : Nat} {r : Instance} (reaches : made.Reaches touched w address r)
    (stored : ∀ n ∈ names, ∃ v, Entries.get? r.attributes n = some v ∧ values n v)
    (kept : ∀ n ∉ names,
      Entries.get? r.attributes n = Entries.get? made.original.attributes n) :
    made.Filled classes names values w address r := by
  have run : ∀ n, (classes.changed made.world.changes).ReadsPlainly made.original.classId n →
      (classes.readAttribute (.object address) n).run.run w =
        ((classes.changed made.world.changes).shown r n, w) := by
    intro n plain
    rw [← reaches.sameClass, ← reaches.kept.changes] at plain
    rw [ClassTable.readAttribute_run plain reaches.found, reaches.kept.changes]
  refine ⟨reaches.found, reaches.sameClass, stored, kept, ?_, ?_⟩
  · intro n mem plain
    obtain ⟨v, found, isValue⟩ := stored n mem
    refine ⟨v, ?_, isValue⟩
    rw [Run.Ends, run n plain, ClassTable.shown_of_get? found]
  · intro n absent plain
    rw [run n plain, ClassTable.readAttribute_run plain made.found]
    exact ClassTable.shown_congr reaches.sameClass reaches.sameApart (kept n absent)

end ObjectMapping
