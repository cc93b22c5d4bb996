import Mathlib.Data.List.Nodup
import ObjectMapping.Proofs.Class.Calling
import ObjectMapping.Proofs.Class.Constructing

/-!
# Records with some of their values changed

A record is made again with some of its values changed by calling its class with these
and with the values that it keeps. `ClassTable.replaceFields` does that for any number
of values; to replace a single one is a case of it (`ClassTable.replaceField_eq`).

Where fields are read plainly, finding out what is kept changes nothing, and the
arguments are the changed values and what the record shows for all other parameters.
-/

namespace ObjectMapping

/-- Entries that stand behind others count where these have nothing. -/
theorem Entries.get?_append {κ ν : Type} [BEq κ] (entries later : Entries κ ν) (key : κ) :
    get? (entries ++ later) key = (get? entries key).or (get? later key) := by
  induction entries with
  | nil => rfl
  | cons entry rest ih =>
    obtain ⟨k, v⟩ := entry
    rw [List.cons_append, get?, get?, ih]
    split <;> rfl

namespace ClassTable

variable (classes : ClassTable Code)

/-- The arguments by which a record keeps all but some of its values when it is called
again. Every parameter that does not change keeps the value that the instance has. -/
def keptArgumentsOf [PackageReading] (earlier : Value) (changed : List String) :
    List RecordField → Run (Entries String Value)
  | [] => return []
  | f :: rest => do
      if f.kind == .classLevel then
        keptArgumentsOf earlier changed rest
      else if !f.accepted then
        if changed.contains f.name then throw (.missingInitOnly f.name)
        keptArgumentsOf earlier changed rest
      else if changed.contains f.name then
        keptArgumentsOf earlier changed rest
      else
        if f.kind == .initOnly && f.default?.isNone then throw (.missingInitOnly f.name)
        let v ← classes.readAttribute earlier f.name
        return (f.name, v) :: (← keptArgumentsOf earlier changed rest)

/-- A new record like the given one but for some fields. The changed values stand first
among the arguments. -/
def replaceFields [Packages] (earlier : Value) (changes : Entries String Value) : Run Value := do
  let c ← classes.classOf earlier
  match classes.recordLayout? c with
  | some layout =>
      let kept ← classes.keptArgumentsOf earlier (Entries.keys changes) layout.fields
      classes.callClass c { named := changes ++ kept }
  | none => throw .badCall

theorem keptArguments_eq [Packages] (earlier : Value) (changed : String)
    (fields : List RecordField) : classes.keptArguments earlier changed fields =
      classes.keptArgumentsOf earlier [changed] fields := by
  induction fields with
  | nil => rfl
  | cons f rest ih =>
    rw [keptArguments, keptArgumentsOf, ih]
    by_cases same : f.name = changed
    · subst same
      simp
    · simp [same]

/-- To replace one value is to replace some. -/
theorem replaceField_eq [Packages] (earlier : Value) (name : String) (v : Value) :
    classes.replaceField earlier name v = classes.replaceFields earlier [(name, v)] := by
  simp only [replaceField, replaceFields, keptArguments_eq]
  rfl

/-! ## What is kept -/

/-- A field is kept if it is a parameter that does not change. Only fields of the class
itself and parameters can be named among the changed ones. -/
theorem keptArgumentsOf_cons [PackageReading] {f : RecordField} (notInitOnly : f.kind ≠ .initOnly)
    (earlier : Value) (changed : List String) (rest : List RecordField) :
    classes.keptArgumentsOf earlier changed (f :: rest) =
      if f.isParameter ∧ f.name ∉ changed then do
        let v ← classes.readAttribute earlier f.name
        return (f.name, v) :: (← classes.keptArgumentsOf earlier changed rest)
      else if f.isParameter ∨ f.kind = .classLevel ∨ f.name ∉ changed then
        classes.keptArgumentsOf earlier changed rest
      else throw (.missingInitOnly f.name) := by
  rw [keptArgumentsOf, RecordField.isParameter]
  cases kind : f.kind with
  | initOnly => exact absurd kind notInitOnly
  | classLevel => simp
  | stored =>
    by_cases isChanged : f.name ∈ changed
    · cases f.accepted with
      | true => simp [isChanged]
      | false => simp [isChanged]
    · cases f.accepted with
      | true => simp [isChanged]
      | false => simp [isChanged]

/-- The arguments are what is shown for the parameters that do not change. -/
structure KeepsShown (shown : String → Except Fault Value) (changed : List String)
    (fields : List RecordField) (kept : Entries String Value) : Prop where
  each : ∀ f ∈ fields, f.isParameter = true → f.name ∉ changed →
    ∃ v, shown f.name = .ok v ∧ Entries.get? kept f.name = some v
  only : ∀ entry ∈ kept, ∃ f ∈ fields, f.isParameter = true ∧ f.name = entry.1 ∧
    f.name ∉ changed

section Kept

variable [Packages] {classes} {w w' : World} {own : Nat} {r : Instance} {changed : List String}
  {fields : List RecordField} (found : w.heap.get? own = some (.record r))
  (noInitOnly : ∀ f ∈ fields, f.kind ≠ .initOnly)
  (plain : ∀ f ∈ fields, f.isParameter = true →
    (classes.changed w.changes).ReadsPlainly r.classId f.name)

include found noInitOnly plain

/-- Finding out what is kept has no effect. -/
theorem KeepsShown.of_ends (distinct : (fields.map (·.name)).Nodup)
    {kept : Entries String Value}
    (ended : (classes.keptArgumentsOf (.object own) changed fields).Ends w kept w') :
    w' = w ∧ KeepsShown ((classes.changed w.changes).shown r) changed fields kept := by
  induction fields generalizing kept with
  | nil =>
    cases ended
    exact ⟨rfl, by simp, by simp⟩
  | cons f rest ih =>
    obtain ⟨notInitOnly, noInitOnlyRest⟩ := List.forall_mem_cons.mp noInitOnly
    obtain ⟨plainFirst, plainRest⟩ := List.forall_mem_cons.mp plain
    obtain ⟨notLater, distinctRest⟩ := List.nodup_cons.mp distinct
    rw [keptArgumentsOf_cons _ notInitOnly] at ended
    split at ended
    · next isKept =>
      have read := readAttribute_run (plainFirst isKept.1) found
      obtain ⟨v, w₁, isRead, ended⟩ := ended.exists_of_bind
      rw [Run.Ends, read] at isRead
      obtain ⟨shown, rfl⟩ := Prod.mk.inj isRead
      obtain ⟨others, w₂, ended, isResult⟩ := ended.exists_of_bind
      cases isResult
      obtain ⟨same, each, only⟩ := ih noInitOnlyRest plainRest distinctRest ended
      refine ⟨same, ?_, fun entry mem => ?_⟩
      · intro g mem isParameter unchanged
        rcases List.mem_cons.mp mem with rfl | later
        · exact ⟨v, shown, by simp [Entries.get?]⟩
        · obtain ⟨u, isShown, isKept⟩ := each g later isParameter unchanged
          have apart : f.name ≠ g.name := by
            intro sameName
            exact notLater (List.mem_map.mpr ⟨g, later, sameName.symm⟩)
          exact ⟨u, isShown, by simpa [Entries.get?, apart] using isKept⟩
      · rcases List.mem_cons.mp mem with rfl | later
        · exact ⟨f, List.mem_cons_self, isKept.1, rfl, isKept.2⟩
        · obtain ⟨g, isField, rest⟩ := only entry later
          exact ⟨g, List.mem_cons_of_mem _ isField, rest⟩
    · next notKept =>
      split at ended
      · obtain ⟨same, each, only⟩ := ih noInitOnlyRest plainRest distinctRest ended
        refine ⟨same, ?_, fun entry mem => ?_⟩
        · intro g mem isParameter unchanged
          rcases List.mem_cons.mp mem with rfl | later
          · exact absurd ⟨isParameter, unchanged⟩ notKept
          · exact each g later isParameter unchanged
        · obtain ⟨g, isField, rest⟩ := only entry mem
          exact ⟨g, List.mem_cons_of_mem _ isField, rest⟩
      · cases ended

/-- What is kept can be found out if it is shown and only parameters change. -/
theorem exists_keptArgumentsOf (changed : List String)
    (shown : ∀ f ∈ fields, f.isParameter = true → f.name ∉ changed →
      ∃ v, (classes.changed w.changes).shown r f.name = .ok v)
    (areParameters : ∀ f ∈ fields, f.name ∈ changed → f.isParameter = true) :
    ∃ kept, (classes.keptArgumentsOf (.object own) changed fields).Ends w kept w := by
  induction fields with
  | nil => exact ⟨[], rfl⟩
  | cons f rest ih =>
    obtain ⟨notInitOnly, noInitOnlyRest⟩ := List.forall_mem_cons.mp noInitOnly
    obtain ⟨plainFirst, plainRest⟩ := List.forall_mem_cons.mp plain
    obtain ⟨shownFirst, shownRest⟩ := List.forall_mem_cons.mp shown
    obtain ⟨isParameterFirst, isParameterRest⟩ := List.forall_mem_cons.mp areParameters
    obtain ⟨others, ended⟩ := ih noInitOnlyRest plainRest shownRest isParameterRest
    rw [keptArgumentsOf_cons _ notInitOnly]
    by_cases isKept : f.isParameter = true ∧ f.name ∉ changed
    · obtain ⟨v, isShown⟩ := shownFirst isKept.1 isKept.2
      have read : (classes.readAttribute (.object own) f.name).Ends w v w := by
        rw [Run.Ends, readAttribute_run (plainFirst isKept.1) found, isShown]
      rw [if_pos isKept]
      exact ⟨_, read.bind (ended.bind rfl)⟩
    · have skipped : f.isParameter = true ∨ f.kind = .classLevel ∨ f.name ∉ changed := by
        by_cases isChanged : f.name ∈ changed
        · exact .inl (isParameterFirst isChanged)
        · exact .inr (.inr isChanged)
      rw [if_neg isKept, if_pos skipped]
      exact ⟨others, ended⟩

/-- What a record shows for all other parameters is kept while one changes. -/
theorem exists_keptArgumentsOf_one (distinct : (fields.map (·.name)).Nodup) {name : String}
    (isParameter : ∃ f ∈ fields, f.isParameter = true ∧ f.name = name)
    (shown : ∀ f ∈ fields, f.isParameter = true → f.name ≠ name →
      ∃ v, (classes.changed w.changes).shown r f.name = .ok v) :
    ∃ kept, (classes.keptArgumentsOf (.object own) [name] fields).Ends w kept w ∧
      KeepsShown ((classes.changed w.changes).shown r) [name] fields kept := by
  obtain ⟨g, isField, isParameterOwn, ownName⟩ := isParameter
  obtain ⟨kept, ended⟩ := exists_keptArgumentsOf found noInitOnly plain [name]
    (fun f mem isParameter other => shown f mem isParameter (by simpa using other))
    (fun f mem same => by
      have sameName : f.name = g.name := by simpa [ownName] using same
      obtain rfl : f = g := List.inj_on_of_nodup_map distinct mem isField sameName
      exact isParameterOwn)
  exact ⟨kept, ended, (KeepsShown.of_ends found noInitOnly plain distinct ended).2⟩

end Kept

/-- A value for one parameter, and what is kept for all others, are arguments for all. -/
theorem KeepsShown.arguments {shown : String → Except Fault Value} {name : String}
    {fields : List RecordField} {kept : Entries String Value}
    (keeps : KeepsShown shown [name] fields kept)
    (isParameter : ∃ f ∈ fields, f.isParameter = true ∧ f.name = name) (v : Value) :
    (∀ f ∈ fields, f.isParameter = true → ∃ u, Entries.get? ((name, v) :: kept) f.name = some u ∧
      (f.name = name ∧ u = v ∨ f.name ≠ name ∧ shown f.name = .ok u)) ∧
    ∀ entry ∈ (name, v) :: kept, ∃ f ∈ fields, f.isParameter = true ∧ f.name = entry.1 := by
  constructor
  · intro f mem isParameter
    by_cases same : f.name = name
    · exact ⟨v, by simp [Entries.get?, same], .inl ⟨same, rfl⟩⟩
    · obtain ⟨u, isShown, isKept⟩ := keeps.each f mem isParameter (by simpa using same)
      exact ⟨u, by simpa [Entries.get?, Ne.symm same] using isKept, .inr ⟨same, isShown⟩⟩
  · intro entry mem
    rcases List.mem_cons.mp mem with rfl | later
    · exact isParameter
    · obtain ⟨f, isField, isParameter, sameName, -⟩ := keeps.only entry later
      exact ⟨f, isField, isParameter, sameName⟩

section Replacing

variable {classes} {w w' : World} {own : Nat} {r : Instance} {layout : RecordLayout}
  (found : w.heap.get? own = some (.record r))
  (isRecord : classes.recordLayout? r.classId = some layout)

include found isRecord

/-- To replace some values of a record is to call its class with these and with what it
keeps. -/
theorem replaceFields_run [Packages] (changes : Entries String Value) :
    (classes.replaceFields (.object own) changes).run.run w =
      (do
        let kept ← classes.keptArgumentsOf (.object own) (Entries.keys changes) layout.fields
        classes.instantiate r.classId { named := changes ++ kept } : Run Value).run.run w := by
  rw [replaceFields, (classes.classOf_ends found).run_bind, isRecord]
  cases declared : r.classId with
  | standard c =>
    rw [declared, recordLayout?_standard] at isRecord
    cases isRecord
  | declared index => rfl

end Replacing

end ClassTable

end ObjectMapping
