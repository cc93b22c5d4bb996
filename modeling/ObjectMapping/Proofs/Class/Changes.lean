import ObjectMapping.Class.Table

/-!
# Changes that are taken up again

A run looks at the classes as all changes so far have left them, also where a table is given
to it that has taken up some of the changes already. Each change leaves a part of what a class
tells as it was, or sets it, whatever it was (`ClassInfo.LeftOrSet`). So a part is the same
after the changes were taken up once and after they were taken up again
(`ClassTable.part_changed_again`).
-/

namespace ObjectMapping

variable {α β : Type}

/-- Each change leaves the part of a class as it was, or sets it, whatever it was. -/
def ClassInfo.LeftOrSet (part : ClassInfo β → α) : Prop :=
  ∀ change : ClassChange, (∀ c : ClassInfo β, part (c.changed change) = part c) ∨
    ∃ a, ∀ c : ClassInfo β, part (c.changed change) = a

/-- A part that no change concerns is left as it was. -/
theorem ClassInfo.LeftOrSet.of_left {part : ClassInfo β → α}
    (left : ∀ (c : ClassInfo β) (change : ClassChange), part (c.changed change) = part c) :
    ClassInfo.LeftOrSet part :=
  fun change => .inl fun c => left c change

namespace ClassTable

theorem size_changed (table : ClassTable β) (changes : List (ClassId × ClassChange)) :
    (table.changed changes).classes.size = table.classes.size := by
  induction changes generalizing table with
  | nil => rfl
  | cons entry rest ih =>
    obtain ⟨c, change⟩ := entry
    cases c with
    | standard => exact ih table
    | declared index => exact (ih _).trans (Array.size_modify ..)

variable [Inhabited β]

/-- Whether a change of one class concerns another one is the same for all tables of a
size. -/
theorem info_modify_of_size (index : Nat) (c : ClassId) (size : Nat) :
    (∀ (table : ClassTable β) (change : ClassChange), table.classes.size = size →
      ClassTable.info ⟨table.classes.modify index (·.changed change)⟩ c = table.info c) ∨
    ∀ (table : ClassTable β) (change : ClassChange), table.classes.size = size →
      ClassTable.info ⟨table.classes.modify index (·.changed change)⟩ c =
        (table.info c).changed change := by
  cases c with
  | standard c => exact .inl fun _ _ _ => rfl
  | declared place =>
    by_cases here : index = place ∧ index < size
    · obtain ⟨rfl, inside⟩ := here
      refine .inr fun table change isSize => ?_
      subst isSize
      simp [info, Array.getElem_modify, inside]
    · refine .inl fun table change isSize => ?_
      subst isSize
      by_cases same : index = place
      · have outside : table.classes[place]? = none := by simp_all
        simp [info, Array.getElem?_modify, outside]
      · simp [info, Array.getElem?_modify, same]

variable {part : ClassInfo β → α}

/-- Changes leave a part of a class as it was that none of them concerns. -/
theorem part_changed_of_left
    (left : ∀ (c : ClassInfo β) (change : ClassChange), part (c.changed change) = part c)
    (table : ClassTable β) (changes : List (ClassId × ClassChange)) (c : ClassId) :
    part ((table.changed changes).info c) = part (table.info c) := by
  induction changes generalizing table with
  | nil => rfl
  | cons entry rest ih =>
    obtain ⟨c', change⟩ := entry
    cases c' with
    | standard => exact ih table
    | declared index =>
      refine (ih _).trans ?_
      rcases info_modify_of_size (β := β) index c table.classes.size with apart | concerned
      · rw [apart table change rfl]
      · rw [concerned table change rfl, left]

variable (leftOrSet : ClassInfo.LeftOrSet part)

include leftOrSet

/-- Like a single change, many changes leave a part of a class as it was, or set it. -/
theorem part_changed (c : ClassId) (size : Nat) (changes : List (ClassId × ClassChange)) :
    (∀ table : ClassTable β, table.classes.size = size →
      part ((table.changed changes).info c) = part (table.info c)) ∨
    ∃ a, ∀ table : ClassTable β, table.classes.size = size →
      part ((table.changed changes).info c) = a := by
  induction changes with
  | nil => exact .inl fun _ _ => rfl
  | cons entry rest ih =>
    obtain ⟨c', change⟩ := entry
    cases c' with
    | standard => exact ih
    | declared index =>
      have sameSize (table : ClassTable β) (isSize : table.classes.size = size) :
          (table.classes.modify index (·.changed change)).size = size := by
        rw [Array.size_modify, isSize]
      rcases ih with leaves | ⟨a, sets⟩
      · have later (table : ClassTable β) (isSize : table.classes.size = size) :
            part ((table.changed ((.declared index, change) :: rest)).info c) =
              part (ClassTable.info ⟨table.classes.modify index (·.changed change)⟩ c) :=
          leaves ⟨_⟩ (sameSize table isSize)
        rcases info_modify_of_size (β := β) index c size with apart | concerned
        · exact .inl fun table isSize => by rw [later table isSize, apart table change isSize]
        · rcases leftOrSet change with left | ⟨a, isSet⟩
          · refine .inl fun table isSize => ?_
            rw [later table isSize, concerned table change isSize, left]
          · refine .inr ⟨a, fun table isSize => ?_⟩
            rw [later table isSize, concerned table change isSize, isSet]
      · exact .inr ⟨a, fun table isSize => sets ⟨_⟩ (sameSize table isSize)⟩

/-- Taking changes up again changes nothing about the part. -/
theorem part_changed_again (table : ClassTable β) (changes : List (ClassId × ClassChange))
    (c : ClassId) :
    part (((table.changed changes).changed changes).info c) =
      part ((table.changed changes).info c) := by
  rcases part_changed leftOrSet c table.classes.size changes with leaves | ⟨a, sets⟩
  · exact leaves _ (table.size_changed changes)
  · rw [sets _ (table.size_changed changes), sets _ rfl]

end ClassTable

end ObjectMapping
