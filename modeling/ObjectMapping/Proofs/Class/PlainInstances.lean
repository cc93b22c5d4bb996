import ObjectMapping.Proofs.Class.PlainStorage

/-!
# Instances that are what is stored in them

Of a plain class (`ClassTable.IsPlain`), code is in the way of no attribute, and an
instance takes a value under every name but two, under which it tells its class and
all that is stored. There are only three ways to read an attribute of such an instance
(`IsPlain.readInstance_cases`). What is stored is read
(`IsPlain.readInstance_of_stored`), and instances that differ in one attribute are
read alike under other names (`IsPlain.readInstance_of_differsAt`).

Reading such an instance never depends on other objects. It answers, fails, or makes
a new object of what is known already (`Run.LooksNowhere`).
-/

namespace ObjectMapping

/-- The run answers or fails whatever objects there are, or makes one. -/
inductive Run.LooksNowhere : Run Value → Prop where
  | answers (v : Value) : LooksNowhere (pure v)
  | fails (fault : Fault) : LooksNowhere (throw fault)
  | makes (object : Object) : LooksNowhere (Run.allocate object)

namespace Run.LooksNowhere

variable {run : Run Value} {w w' : World}

/-- Where there are as many objects, it comes to the same. -/
theorem outcome_eq (nowhere : run.LooksNowhere) (sameSize : w'.heap.next = w.heap.next) :
    (run.run.run w').1 = (run.run.run w).1 := by
  cases nowhere with
  | answers v => rfl
  | fails fault => rfl
  | makes object =>
    rw [Run.ends_allocate object w, Run.ends_allocate object w', sameSize]

/-- What it answers without making an object, it answers in every world. -/
theorem ends_anywhere (nowhere : run.LooksNowhere) {v : Value} (ended : run.Ends w v w)
    (w' : World) : run.Ends w' v w' := by
  cases nowhere with
  | answers v' =>
    obtain ⟨rfl, -⟩ := (Run.ends_pure v' w).unique ended
    exact Run.ends_pure _ w'
  | fails fault => cases ended
  | makes object =>
    obtain ⟨-, changed⟩ := (Run.ends_allocate object w).unique ended
    have grown := congrArg (fun world => world.heap.next) changed
    simp at grown

end Run.LooksNowhere

namespace ClassTable

/-- What an instance tells under the names of its class and of its store is not what is
stored under them. -/
def tellsItself (name : String) : Bool :=
  name == classAttribute || name == storeAttribute

variable {classes : ClassTable Code} {r r' : Instance} {name written : String} {v : Value}

theorem readCommon_of_stored (found : Entries.get? r.attributes name = some v)
    (ordinary : tellsItself name = false) : classes.readCommon r name = pure v := by
  simp only [tellsItself, Bool.or_eq_false_iff] at ordinary
  simp only [readCommon, ordinary.1, ordinary.2, Bool.false_and, Bool.false_eq_true, if_false,
    stored, found, Option.some_or]
  cases r.classId <;> rfl

/-- What is told of an instance apart from its store is told alike of one that differs
in another attribute. -/
theorem readCommon_of_differsAt (differs : r.DiffersAt written v r') (apart : name ≠ written)
    (notStore : name ≠ storeAttribute) :
    classes.readCommon r' name = classes.readCommon r name := by
  simp only [readCommon, beq_eq_false_iff_ne.mpr notStore, Bool.false_and, Bool.false_eq_true,
    if_false, stored, differs.sameClass, differs.sameApart, differs.others name apart]

theorem readCommon_looksNowhere (r : Instance) (name : String) :
    (classes.readCommon r name).LooksNowhere := by
  have ofStored : (stored r name).LooksNowhere := by
    rw [stored]
    split
    · exact .answers _
    · exact .fails _
  rw [readCommon]
  split
  · exact .answers _
  · split
    · exact .makes _
    · split
      · split
        · exact .answers _
        · split
          · exact .answers _
          · split
            · exact .makes _
            · exact ofStored
      · exact ofStored

namespace IsPlain

variable [Packages] {c : ClassId}

/-- Storing puts the value under its name. -/
theorem writeAttribute_ends {address : Nat} {w : World}
    (plain : (classes.changed w.changes).IsPlain r.classId) (v : Value)
    (ordinary : tellsItself name = false) (found : w.heap.get? address = some (.record r)) :
    (classes.writeAttribute (.object address) name v).Ends w () {
      w with
      heap := w.heap.set address (.record {
        r with attributes := Entries.put r.attributes name v }) } := by
  have notClass : name ≠ classAttribute := by
    rintro rfl
    cases ordinary
  refine writeAttribute_ends_of_isOpen v notClass (fun m member => ?_) plain.isOpen
    plain.unguarded found
  obtain ⟨entry, owned, rfl⟩ := Option.map_eq_some_iff.mp member
  exact (plain.passive name entry.1 entry.2 owned).2

variable (plain : classes.IsPlain c)

include plain

/-- An attribute is read as all instances tell it, as a place of instances, or as a value
that is shared while an instance stores none. -/
theorem readInstance_cases (name : String) :
    (∀ address r, r.classId = c →
      classes.readInstance address r name = classes.readCommon r name) ∨
    (∀ address r, r.classId = c → classes.readInstance address r name = stored r name) ∨
    ∃ shared, ∀ address r, r.classId = c →
      classes.readInstance address r name =
        pure ((Entries.get? r.attributes name).getD shared) := by
  cases owned : classes.owned? c name with
  | none =>
    left
    rintro address r rfl
    simp only [readInstance, owned]
  | some entry =>
    obtain ⟨owner, m⟩ := entry
    obtain ⟨notModel, passive⟩ := plain.passive name owner m owned
    cases m with
    | property | collection => cases passive
    | slot =>
      right; left
      rintro address r rfl
      simp only [readInstance, owned]
    | column =>
      refine .inr (.inr ⟨.null, ?_⟩)
      rintro address r rfl
      simp only [readInstance, owned, passive.readColumn]
    | constant shared =>
      refine .inr (.inr ⟨shared, ?_⟩)
      rintro address r rfl
      simp only [readInstance, owned]
    | abstractMethod =>
      refine .inr (.inr ⟨.member .boundCode owner name, ?_⟩)
      rintro address r rfl
      simp only [readInstance, owned]

/-- A stored value is read, whatever instances share under the name. -/
theorem readInstance_of_stored (sameClass : r.classId = c)
    (found : Entries.get? r.attributes name = some v) (ordinary : tellsItself name = false)
    (address : Nat) : classes.readInstance address r name = pure v := by
  rcases plain.readInstance_cases name with common | place | ⟨shared, read⟩
  · rw [common address r sameClass, readCommon_of_stored found ordinary]
  · rw [place address r sameClass, stored, found]
    rfl
  · rw [read address r sameClass, found]
    rfl

/-- Instances that differ in one attribute are read alike under other names. -/
theorem readInstance_of_differsAt (sameClass : r.classId = c)
    (differs : r.DiffersAt written v r') (apart : name ≠ written)
    (notStore : name ≠ storeAttribute) (address : Nat) :
    classes.readInstance address r' name = classes.readInstance address r name := by
  have sameClass' : r'.classId = c := differs.sameClass.trans sameClass
  rcases plain.readInstance_cases name with common | place | ⟨shared, read⟩
  · rw [common address r sameClass, common address r' sameClass',
      readCommon_of_differsAt differs apart notStore]
  · rw [place address r sameClass, place address r' sameClass', stored, stored,
      differs.sameApart, differs.others name apart]
  · rw [read address r sameClass, read address r' sameClass', differs.others name apart]

theorem readInstance_looksNowhere (sameClass : r.classId = c) (address : Nat) (name : String) :
    (classes.readInstance address r name).LooksNowhere := by
  rcases plain.readInstance_cases name with common | place | ⟨shared, read⟩
  · rw [common address r sameClass]
    exact readCommon_looksNowhere r name
  · rw [place address r sameClass, stored]
    split
    · exact .answers _
    · exact .fails _
  · rw [read address r sameClass]
    exact .answers _

end IsPlain

end ClassTable

end ObjectMapping
