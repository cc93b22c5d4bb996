import ObjectMapping.Proofs.Declaration.DistinctNames

/-!
# Layouts of declared classes

A class leads its own line, and one that is filled field by field has a layout that lists
the fields (`ClassInfo.LaidOut`). This holds of every class of a program, whatever its
declarations say (`Blueprint.laidOut_runnable`). If each declaration is named by its place,
each class is found at its place (`Blueprint.id_runnable`).
-/

namespace ObjectMapping

/-- The class leads its line, and has the layout that its way of filling instances reads. -/
structure ClassInfo.LaidOut {β : Type} (c : ClassInfo β) : Prop where
  line : c.lineage.head? = some c.name.id
  record : c.initializer? = some .record → c.record?.isSome = true
  slotted : c.initializer? = some .slotted → c.slotted?.isSome = true

/-- All declared classes are laid out. -/
def ClassTable.LaidOut {β : Type} (table : ClassTable β) : Prop :=
  ∀ c ∈ table.classes, c.LaidOut

variable {β γ : Type}

theorem ClassInfo.LaidOut.changed {c : ClassInfo β} (laidOut : c.LaidOut) (change : ClassChange) :
    (c.changed change).LaidOut := by
  cases change with
  | stored | completed => exact ⟨laidOut.line, laidOut.record, laidOut.slotted⟩
  | filledLike => exact ⟨laidOut.line, nofun, nofun⟩

theorem ClassInfo.LaidOut.map {c : ClassInfo β} (laidOut : c.LaidOut) (f : β → γ) :
    (c.map f).LaidOut where
  line := laidOut.line
  record generated := by
    obtain ⟨initializer, isInitializer, same⟩ := Option.map_eq_some_iff.mp generated
    cases initializer with
    | record => exact laidOut.record isInitializer
    | _ => cases same
  slotted generated := by
    obtain ⟨initializer, isInitializer, same⟩ := Option.map_eq_some_iff.mp generated
    cases initializer with
    | slotted => exact laidOut.slotted isInitializer
    | _ => cases same

theorem StandardClass.laidOut_info (inert : β) (c : StandardClass) :
    (c.info inert).LaidOut := by
  cases c <;> exact ⟨rfl, nofun, nofun⟩

namespace ClassTable.LaidOut

variable {table : ClassTable β} (laidOut : table.LaidOut)

include laidOut

theorem changed (changes : List (ClassId × ClassChange)) : (table.changed changes).LaidOut :=
  forall_mem_changed (fun _ change laidOut => laidOut.changed change) laidOut changes

theorem map (f : β → γ) : (table.map f).LaidOut := by
  intro c mem
  obtain ⟨earlier, isEarlier, rfl⟩ := Array.mem_map.mp mem
  exact (laidOut earlier isEarlier).map f

/-- Classes that are not declared are laid out as well. -/
theorem info [Inhabited β] (c : ClassId) : (table.info c).LaidOut := by
  cases c with
  | standard s => exact s.laidOut_info default
  | declared index =>
    rw [ClassTable.info]
    split
    · next found => exact laidOut _ (Array.mem_of_getElem? found)
    · exact ⟨rfl, by simp, by simp⟩

end ClassTable.LaidOut

/-! ## Programs -/

namespace EvaluatedClass

variable (e : EvaluatedClass) (heritage : Heritage)

/-- Whatever its kind, a class keeps the name of its declaration. -/
theorem name_complete : (e.complete heritage).name = e.declaration.name := by
  rw [complete]
  cases e.declaration.kind with
  | plain =>
    dsimp only
    split
    · rfl
    · split <;> rfl
  | _ => rfl

/-- A class is filled by the code that its declaration writes, or else as its kind says. -/
theorem initializer_of_base_or {alternative? : Option (Initializer Body)}
    {initializer : Initializer Body}
    (isInitializer : (e.base heritage).initializer?.or alternative? = some initializer) :
    (∃ parameters body, initializer = .code parameters body) ∨
      alternative? = some initializer := by
  rcases Option.or_eq_some_iff.mp isInitializer with written | ⟨-, alternative⟩
  · obtain ⟨c, -, rfl⟩ := Option.map_eq_some_iff.mp written
    exact .inl ⟨_, _, rfl⟩
  · exact .inr alternative

/-- What a declaration amounts to is laid out, whatever its kind. -/
theorem laidOut_complete (owned : heritage.owner = e.declaration.name.id) :
    (e.complete heritage).LaidOut := by
  have line : heritage.lineage.head? = some e.declaration.name.id := congrArg some owned
  have written {c : ClassInfo Body} (alternative? : Option (Initializer Body))
      (isInitializer : c.initializer? = (e.base heritage).initializer?.or alternative?)
      (isLine : c.lineage.head? = some c.name.id)
      (record : alternative? = some .record → c.record?.isSome = true)
      (slotted : alternative? = some .slotted → c.slotted?.isSome = true) : c.LaidOut := by
    refine ⟨isLine, fun generated => ?_, fun generated => ?_⟩
    · rcases e.initializer_of_base_or heritage (isInitializer.symm.trans generated) with
        ⟨_, _, ⟨⟩⟩ | alternative
      exact record alternative
    · rcases e.initializer_of_base_or heritage (isInitializer.symm.trans generated) with
        ⟨_, _, ⟨⟩⟩ | alternative
      exact slotted alternative
  have asBase {c : ClassInfo Body} (isInitializer : c.initializer? = (e.base heritage).initializer?)
      (isLine : c.lineage.head? = some c.name.id) : c.LaidOut :=
    written none (by rw [isInitializer, Option.or_none]) isLine (by simp) (by simp)
  rw [complete]
  cases e.declaration.kind with
  | record => exact written _ rfl line (fun _ => rfl) (by simp)
  | slotted => exact written _ rfl line (by simp) fun _ => rfl
  | model | entity => exact asBase rfl line
  | mappedPlain | interface =>
    refine written _ rfl line ?_ ?_
    · split <;> simp
    · split <;> simp
  | plain =>
    dsimp only
    split
    · exact asBase rfl line
    · split <;> exact asBase rfl line

end EvaluatedClass

namespace Blueprint

variable {blueprint blueprint' : Blueprint} {w w' : World} {declarations : List ClassDeclaration}

theorem laidOut_push (laidOut : blueprint.LaidOut) {c : ClassInfo Body} (cLaidOut : c.LaidOut) :
    (blueprint.push c).LaidOut := by
  intro c' mem
  rcases Array.mem_push.mp mem with earlier | rfl
  · exact laidOut c' earlier
  · exact ⟨cLaidOut.line, cLaidOut.record, cLaidOut.slotted⟩

/-- All classes of a program are laid out. -/
theorem laidOut_runnable [Packages] (ended : (declareAll declarations).Ends w blueprint w') :
    blueprint.runnable.LaidOut := by
  have laidOut : blueprint.LaidOut :=
    declareAll_induction ended (motive := ClassTable.LaidOut) (by simp [ClassTable.LaidOut])
      (fun _ changes laidOut => laidOut.changed changes)
      fun _ e _ _ laidOut => laidOut_push laidOut (e.laidOut_complete _ rfl)
  obtain ⟨f, isMap⟩ := blueprint.exists_map_eq_runnable
  rw [isMap]
  exact laidOut.map f

/-! ## Classes at their places -/

theorem names_changed {β : Type} (table : ClassTable β) (changes : List (ClassId × ClassChange)) :
    (table.changed changes).classes.map (·.name) = table.classes.map (·.name) := by
  induction changes generalizing table with
  | nil => rfl
  | cons entry rest ih =>
    obtain ⟨c, change⟩ := entry
    cases c with
    | standard => exact ih table
    | declared index =>
      refine (ih ⟨_⟩).trans (Array.ext_getElem? fun place => ?_)
      simp only [Array.getElem?_map, Array.getElem?_modify]
      split
      · cases table.classes[place]? with
        | none => rfl
        | some c => cases change <;> rfl
      · rfl

/-- Declaring classes adds their names in order. -/
theorem names_of_foldlM_declare [Packages]
    (ended : (declarations.foldlM declare blueprint).Ends w blueprint' w') :
    blueprint'.classes.map (·.name) =
      blueprint.classes.map (·.name) ++ (declarations.map (·.name)).toArray := by
  induction declarations generalizing blueprint w with
  | nil =>
    cases ended
    simp
  | cons d rest ih =>
    rw [List.foldlM_cons] at ended
    obtain ⟨next, u, first, ended⟩ := ended.exists_of_bind
    obtain ⟨e, changes, rfl, -, rfl⟩ := exists_of_declare first
    have pushed : (push (blueprint.changed changes)
        (e.complete (e.declaration.heritage (blueprint.changed changes)))).classes.map (·.name) =
        (blueprint.classes.map (·.name)).push e.declaration.name := by
      rw [← names_changed blueprint changes, ← e.name_complete]
      exact Array.map_push
    rw [ih ended, pushed]
    simp

/-- If each declaration is named by its place, each class is found at its place. -/
theorem id_runnable [Packages] (placed : ∀ (index : Nat) (d : ClassDeclaration),
      declarations[index]? = some d → d.name.id = .declared index)
    (ended : (declareAll declarations).Ends w blueprint w') (changes : List (ClassId × ClassChange))
    (index : Nat) :
    ((blueprint.runnable.changed changes).info (.declared index)).name.id = .declared index := by
  have names : (blueprint.runnable.changed changes).classes.map (·.name) =
      (declarations.map (·.name)).toArray := by
    obtain ⟨f, isMap⟩ := blueprint.exists_map_eq_runnable
    have declared := names_of_foldlM_declare ended
    rw [names_changed, isMap, ClassTable.map, Array.map_map]
    exact declared.trans (by simp)
  rw [ClassTable.info]
  split
  · next c found =>
    have isNamed := congrArg (·[index]?) names
    simp only [Array.getElem?_map, found, List.getElem?_toArray, List.getElem?_map] at isNamed
    obtain ⟨d, isDeclared, sameName⟩ := Option.map_eq_some_iff.mp isNamed.symm
    exact (congrArg ClassName.id sameName.symm).trans (placed index d isDeclared)
  · rfl

end Blueprint

end ObjectMapping
