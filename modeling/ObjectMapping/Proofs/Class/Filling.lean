import ObjectMapping.Class.Signature
import ObjectMapping.Proofs.Class.Changes

/-!
# Who decides how instances are filled

A class fills its instances as the first class of its line says that says something about it,
or as a class says to which that one refers. Which class decides, and what it says, depends
on the lines of classes and on what each of them says (`ClassTable.decider?`). So both stay the
same when changes are taken up again (`ClassTable.fillingDecider?_changed_again`).
-/

namespace ObjectMapping

variable {β : Type}

/-- The way is the placeholder of an interface. -/
def Initializer.isPlaceholder : Initializer β → Bool
  | .placeholder => true
  | _ => false

/-- Only a change of the way in which a class fills instances sets it. -/
theorem ClassInfo.leftOrSet_initializer :
    ClassInfo.LeftOrSet fun c : ClassInfo β => c.initializer? := by
  rintro (_ | ancestor? | _)
  · exact .inl fun _ => rfl
  · exact .inr ⟨some (.like ancestor?), fun _ => rfl⟩
  · exact .inl fun _ => rfl

namespace ClassTable

variable [Inhabited β] (table : ClassTable β)

/-- What a class says about filling instances, or the class to which it refers. -/
def referred? : ClassId × Initializer β → Option (ClassId × Initializer β)
  | (_, .like none) => none
  | (_, .like (some other)) =>
      (table.info other).initializer?.map fun initializer => (other, initializer)
  | found => some found

/-- The class that decides how instances of a class are filled, with what it says, where only
some ways count along the line. -/
def decider? (counts : Initializer β → Bool) (c : ClassId) : Option (ClassId × Initializer β) :=
  let first? := (table.info c).lineage.findSome? fun a =>
    ((table.info a).initializer?.filter counts).map fun initializer => (a, initializer)
  first?.bind table.referred?

/-- A way of filling instances, with what is known of the class that decides. -/
def told (found : ClassId × Initializer β) : ClassInfo β × Initializer β :=
  (table.info found.1, found.2)

theorem declaring?_eq (a : ClassId) (initializer : Initializer β) :
    table.declaring? (table.info a) initializer =
      (table.referred? (a, initializer)).map table.told := by
  cases initializer with
  | like ancestor? =>
    cases ancestor? with
    | none => rfl
    | some other =>
      rw [declaring?, referred?, Option.map_map]
      rfl
  | _ => rfl

/-- What the first class says that counts, and the class to which it refers. -/
theorem bind_declaring?_eq (counts : Initializer β → Bool) (c : ClassId)
    {own? : ClassInfo β → Option (ClassInfo β × Initializer β)}
    (owns : ∀ c, own? c = (c.initializer?.filter counts).map fun initializer => (c, initializer)) :
    (((table.line c).findSome? own?).bind fun found => table.declaring? found.1 found.2) =
      (table.decider? counts c).map table.told := by
  have first : (table.line c).findSome? own? =
      ((table.info c).lineage.findSome? fun a =>
        ((table.info a).initializer?.filter counts).map fun initializer =>
          (a, initializer)).map table.told := by
    rw [line, List.findSome?_map, List.map_findSome?]
    congr 1
    funext a
    simp only [Function.comp_apply, owns, Option.map_map]
    rfl
  rw [decider?, first, Option.bind_map, Option.map_bind]
  congr 1
  funext found
  exact table.declaring?_eq found.1 found.2

theorem initializer?_eq (c : ClassId) :
    table.initializer? c = (table.decider? (fun _ => true) c).map table.told :=
  table.bind_declaring?_eq _ c fun c => by cases c.initializer? <;> rfl

theorem actualInitializer?_eq (c : ClassId) :
    table.actualInitializer? c = (table.decider? (!·.isPlaceholder) c).map table.told :=
  table.bind_declaring?_eq _ c fun c => by
    cases c.initializer? with
    | none => rfl
    | some initializer => cases initializer <;> rfl

/-- The class that decides says for itself what is done. -/
theorem initializer_of_decider? {counts : Initializer β → Bool} {c : ClassId}
    {found : ClassId × Initializer β} (decides : table.decider? counts c = some found) :
    (table.info found.1).initializer? = some found.2 := by
  obtain ⟨⟨first, own⟩, isFirst, isReferred⟩ := Option.bind_eq_some_iff.mp decides
  obtain ⟨a, -, isOwn⟩ := List.exists_of_findSome?_eq_some isFirst
  obtain ⟨_, counted, ⟨⟩⟩ := Option.map_eq_some_iff.mp isOwn
  have isSaid := (Option.filter_eq_some_iff.mp counted).1
  cases own with
  | like ancestor? =>
    cases ancestor? with
    | none => cases isReferred
    | some other =>
      obtain ⟨_, isOther, ⟨⟩⟩ := Option.map_eq_some_iff.mp isReferred
      exact isOther
  | _ =>
    cases isReferred
    exact isSaid

theorem exists_info_of_initializer? {c : ClassId} {ancestor : ClassInfo β}
    {initializer : Initializer β} (found : table.initializer? c = some (ancestor, initializer)) :
    ∃ a, ancestor = table.info a ∧ ancestor.initializer? = some initializer := by
  rw [initializer?_eq] at found
  obtain ⟨decider, decides, ⟨⟩⟩ := Option.map_eq_some_iff.mp found
  exact ⟨decider.1, rfl, table.initializer_of_decider? decides⟩

variable (changes : List (ClassId × ClassChange)) (c : ClassId)

/-- Taking changes up again changes nothing about who decides, and what it says. -/
theorem decider?_changed_again (counts : Initializer β → Bool) :
    ((table.changed changes).changed changes).decider? counts c =
      (table.changed changes).decider? counts c := by
  have initializer := part_changed_again (ClassInfo.leftOrSet_initializer (β := β)) table changes
  have left : ClassInfo.LeftOrSet fun c : ClassInfo β => c.lineage :=
    .of_left fun c change => by cases change <;> rfl
  have lineage := part_changed_again left table changes
  have referred : ((table.changed changes).changed changes).referred? =
      (table.changed changes).referred? := by
    funext found
    obtain ⟨a, own⟩ := found
    cases own with
    | like ancestor? =>
      cases ancestor? with
      | none => rfl
      | some other => simp only [referred?, initializer]
    | _ => rfl
  simp only [decider?, initializer, lineage, referred]

/-- The way in which a first instance is filled. The placeholder of an interface has given
way by then. -/
def filling? : Option (ClassInfo β × Initializer β) :=
  match table.initializer? c with
  | some (_, .placeholder) => table.actualInitializer? c
  | initializer? => initializer?

/-- The class that decides how a first instance is filled, with what it says. -/
def fillingDecider? : Option (ClassId × Initializer β) :=
  match table.decider? (fun _ => true) c with
  | some (_, .placeholder) => table.decider? (!·.isPlaceholder) c
  | decider? => decider?

theorem filling?_eq : table.filling? c = (table.fillingDecider? c).map table.told := by
  rw [filling?, fillingDecider?, initializer?_eq, actualInitializer?_eq]
  cases table.decider? (fun _ => true) c with
  | none => rfl
  | some found =>
    obtain ⟨a, initializer⟩ := found
    cases initializer <;> rfl

theorem fillingDecider?_changed_again :
    ((table.changed changes).changed changes).fillingDecider? c =
      (table.changed changes).fillingDecider? c := by
  simp only [fillingDecider?, decider?_changed_again]

end ClassTable

end ObjectMapping
