import ObjectMapping.Proofs.Class.PlainStorage

/-!
# What instances take

Whether an attribute can be stored is decided by the write guards of the class, and
behind these by what stands under the name: a property with a setter, or a place in the
instance. Packages have the last word about models and frozen slotted classes, and
about what is mapped. `ClassTable.Takes` puts that together, and storing succeeds exactly
then (`writeAttribute_succeeds_iff`), provided that the setter does which it may call.
-/

namespace ObjectMapping

/-- What instances of the class store is left to a package. -/
def ClassInfo.isLeftToPackage {β : Type} (c : ClassInfo β) : Bool :=
  match c.guard? with
  | some .model | some .frozenSlotted => true
  | _ => false

/-- The guard that `owner` declares refuses the name on instances of the class. -/
def WriteGuard.refuses (guard : WriteGuard) (owner c : ClassId) (name : String) : Bool :=
  match guard with
  | .frozenRecord fields isSlotted => fields.contains name || isSlotted || owner == c
  | .frozenSlotted | .model => false

namespace ClassTable

/-! ## Changes that are taken up again -/

section Changes

variable {β : Type} [Inhabited β] (table : ClassTable β)
  (changes : List (ClassId × ClassChange)) (c : ClassId) (name : String)

omit [Inhabited β] in
/-- A change leaves what stands under a name, or puts a value there. -/
theorem leftOrSet_member (name : String) :
    ClassInfo.LeftOrSet fun c : ClassInfo β => Entries.get? c.members name := by
  rintro (⟨stored, v⟩ | ancestor? | _)
  · by_cases same : stored = name
    · subst same
      exact .inr ⟨_, fun c => Entries.get?_put_self _ _ _⟩
    · exact .inl fun c => Entries.get?_put_of_ne _ _ same
  · exact .inl fun _ => rfl
  · exact .inl fun _ => rfl

/-- Taking changes up again changes nothing about what stands under a name. -/
theorem member?_changed_again :
    ((table.changed changes).changed changes).member? c name =
      (table.changed changes).member? c name := by
  have same (c : ClassId) :
      Entries.get? (((table.changed changes).changed changes).info c).members name =
        Entries.get? ((table.changed changes).info c).members name :=
    part_changed_again (leftOrSet_member name) table changes c
  have again := (table.changed changes).outlasts_changed changes
  simp only [member?_eq, again.lineage, List.findSome?_map, Function.comp_def, same]

theorem hasPlace_changed_again :
    ((table.changed changes).changed changes).hasPlace c name =
      (table.changed changes).hasPlace c name := by
  have again := (table.changed changes).outlasts_changed changes
  simp only [hasPlace, member?_changed_again, again.isOpen_eq]

end Changes

/-! ## Behind the guards -/

variable [Packages] {classes : ClassTable Code} {r : Instance} {address : Nat} {name : String}
  {v : Value} {w : World}

/-- Behind the guards, something takes the value: a setter, a package or a place. As its class,
an instance takes another one whose instances have the same shape. -/
def TakesBehind (classes : ClassTable Code) (w : World) (address : Nat) (r : Instance)
    (name : String) (v : Value) : Prop :=
  match (classes.changed w.changes).member? r.classId name with
  | some (.property p) => p.setter?.isSome = true
  | some .column => (Packages.storeColumn address name v).Succeeds w
  | some .collection =>
      (Packages.storeCollection (classes.changed w.changes) address name v).Succeeds w
  | some _ => (classes.changed w.changes).hasPlace r.classId name = true
  | none =>
      if name = classAttribute then
        ((classes.changed w.changes).changeClass address r v).Succeeds w
      else (classes.changed w.changes).hasPlace r.classId name = true

/-- The setter that storing would call succeeds. -/
def SetterSucceeds (classes : ClassTable Code) (w : World) (address : Nat) (r : Instance)
    (name : String) (v : Value) : Prop :=
  ∀ p setter, (classes.changed w.changes).member? r.classId name = some (.property p) →
    p.setter? = some setter → (setter [.object address, v]).Succeeds w

omit [Packages] in
/-- The setter that storing would call is the same when changes are taken up again. -/
theorem SetterSucceeds.again (setters : classes.SetterSucceeds w address r name v) :
    (classes.changed w.changes).SetterSucceeds w address r name v := by
  intro p setter member
  rw [member?_changed_again] at member
  exact setters p setter member

/-- Where no code is asked, storing behind the guards takes a place. -/
theorem storeUnguarded_succeeds_iff_hasPlace (notClass : name ≠ classAttribute)
    (found : w.heap.get? address = some (.record r))
    (passive : ∀ m, (classes.changed w.changes).member? r.classId name = some m → m.IsPassive) :
    (classes.storeUnguarded (.object address) name v).Succeeds w ↔
      (classes.changed w.changes).hasPlace r.classId name = true := by
  have run := storeUnguarded_run v notClass found passive
  cases place : (classes.changed w.changes).hasPlace r.classId name with
  | true =>
    rw [place, if_pos rfl] at run
    exact iff_of_true (Run.Ends.succeeds run) rfl
  | false =>
    rw [place, if_neg Bool.false_ne_true] at run
    exact iff_of_false (Run.not_succeeds_of_error run) Bool.false_ne_true

omit [Packages] in
theorem putOpen_succeeds_iff (found : w.heap.get? address = some (.record r)) :
    (classes.putOpen address r name v).Succeeds w ↔ classes.isOpen r.classId = true := by
  rw [putOpen]
  split
  · next isOpen => exact iff_of_true (putAttribute_ends name v found).succeeds isOpen
  · next notOpen => exact iff_of_false (Run.not_succeeds_throw _ w) notOpen

/-- Behind the guards, storing succeeds exactly if something takes the value. -/
theorem storeUnguarded_succeeds_iff
    (found : w.heap.get? address = some (.record r))
    (setters : classes.SetterSucceeds w address r name v) :
    (classes.storeUnguarded (.object address) name v).Succeeds w ↔
      classes.TakesBehind w address r name v := by
  have asked : (classes.storeUnguarded (.object address) name v).Succeeds w ↔ _ :=
    ((now_ends classes w).succeeds_bind_iff _).trans
      ((Run.ends_object? address w).succeeds_bind_iff _)
  rw [found] at asked
  cases member : (classes.changed w.changes).member? r.classId name with
  | none =>
    simp only [asked, TakesBehind, hasPlace, member, beq_iff_eq]
    split
    · rfl
    · exact putOpen_succeeds_iff found
  | some m =>
    cases m with
    | property p =>
      simp only [asked, TakesBehind, member]
      cases isSetter : p.setter? with
      | none => simpa using Run.not_succeeds_throw _ _
      | some setter =>
        refine iff_of_true ?_ rfl
        exact (Run.succeeds_bind_pure_iff _ _ w).mpr (setters p setter member isSetter)
    | column | collection => simp only [asked, TakesBehind, member]
    | slot =>
      simp only [asked, TakesBehind, hasPlace, member]
      exact iff_of_true (putAttribute_ends name v found).succeeds trivial
    | constant | abstractMethod =>
      simp only [asked, TakesBehind, hasPlace, member]
      exact putOpen_succeeds_iff found

/-! ## Guards -/

/-- The guards that are asked, with the classes that declare them: those in front of a
guard that leaves the answer to a package. -/
def asked (classes : ClassTable Code) (c : ClassId) : List (ClassInfo Code) :=
  (classes.line c).takeWhile (!·.isLeftToPackage)

/-- The guard of a line that leaves the answer to a package. -/
def packageGuard? (line : List (ClassInfo Code)) : Option WriteGuard :=
  (line.find? (·.isLeftToPackage)).bind (·.guard?)

/-- Behind the guards that are asked, the package that guards the line takes the value. Where
there is none, what stands under the name does. -/
def TakesLast (classes : ClassTable Code) (w : World) (address : Nat) (r : Instance)
    (name : String) (v : Value) (line : List (ClassInfo Code)) : Prop :=
  match packageGuard? line, classes.modelLayout? r.classId with
  | some .frozenSlotted, _ => (Packages.storeFrozen r address name v).Succeeds w
  | some .model, some layout =>
      (Packages.storeModel classes layout r address name v
        (classes.storeUnguarded (.object address) name v)).Succeeds w
  | _, _ => classes.TakesBehind w address r name v

/-- The instance takes the value under the name: no guard refuses that, and behind the
guards something takes it. -/
structure Takes (classes : ClassTable Code) (w : World) (address : Nat) (r : Instance)
    (name : String) (v : Value) : Prop where
  unrefused : ∀ ancestor ∈ classes.asked r.classId, ∀ guard, ancestor.guard? = some guard →
    guard.refuses ancestor.name.id r.classId name = false
  taken : classes.TakesLast w address r name v (classes.line r.classId)

/-- Storing goes past the guards if none of them refuses, and then on to what takes the
value. -/
theorem storeGuarded_succeeds_iff
    (found : w.heap.get? address = some (.record r))
    (setters : classes.SetterSucceeds w address r name v) (line : List (ClassInfo Code)) :
    (classes.storeGuarded r address name v line).Succeeds w ↔
      (∀ ancestor ∈ line.takeWhile (!·.isLeftToPackage), ∀ guard, ancestor.guard? = some guard →
        guard.refuses ancestor.name.id r.classId name = false) ∧
      classes.TakesLast w address r name v line := by
  have behind := storeUnguarded_succeeds_iff found setters
  induction line with
  | nil => simpa [storeGuarded, TakesLast, packageGuard?] using behind
  | cons ancestor rest ih =>
    cases isLeft : ancestor.isLeftToPackage with
    | true =>
      have nothing : (ancestor :: rest).takeWhile (!·.isLeftToPackage) = [] := by simp [isLeft]
      have last : packageGuard? (ancestor :: rest) = ancestor.guard? := by
        simp [packageGuard?, isLeft]
      rw [storeGuarded, nothing, TakesLast, last]
      rw [ClassInfo.isLeftToPackage] at isLeft
      cases guard : ancestor.guard? with
      | none => simp [guard] at isLeft
      | some g =>
        cases g with
        | frozenSlotted => simp
        | frozenRecord => simp [guard] at isLeft
        | model =>
          cases classes.modelLayout? r.classId with
          | none => simpa using behind
          | some layout => simp
    | false =>
      have last : packageGuard? (ancestor :: rest) = packageGuard? rest := by
        simp [packageGuard?, isLeft]
      have same : classes.TakesLast w address r name v (ancestor :: rest) ↔
          classes.TakesLast w address r name v rest := by rw [TakesLast, last, TakesLast]
      simp only [List.takeWhile_cons, isLeft, Bool.not_false, if_true, List.forall_mem_cons,
        and_assoc, same, ← ih, storeGuarded]
      cases guard : ancestor.guard? with
      | none => simp
      | some g =>
        simp only [Option.some.injEq, forall_eq', WriteGuard.refuses]
        cases g with
        | model | frozenSlotted => simp [ClassInfo.isLeftToPackage, guard] at isLeft
        | frozenRecord fields isSlotted =>
          simp only [Run.succeeds_unless_iff]
          cases isSlotted <;> simp [and_assoc]

/-- Storing an attribute of an instance succeeds exactly if the instance takes the value. -/
theorem writeAttribute_succeeds_iff
    (found : w.heap.get? address = some (.record r))
    (setters : classes.SetterSucceeds w address r name v) :
    (classes.writeAttribute (.object address) name v).Succeeds w ↔
      (classes.changed w.changes).Takes w address r name v := by
  rw [writeAttribute, (now_ends classes w).succeeds_bind_iff,
    (Run.ends_object? address w).succeeds_bind_iff, found]
  exact (storeGuarded_succeeds_iff found setters.again _).trans
    ⟨fun both => ⟨both.1, both.2⟩, fun takes => ⟨takes.unrefused, takes.taken⟩⟩

end ClassTable

end ObjectMapping
