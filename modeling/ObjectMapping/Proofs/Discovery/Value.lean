import ObjectMapping.Discovery.Registry

/-!
# What discovery ends with, apart from what it reports

Discovery leaves records on its way. What it ends with does not depend on them:
`Logged.IsSteady` says so of a computation, and each step of discovery is steady.
So a computation can be taken for its value, and the value of a computation in
two parts for the values of its parts.
-/

namespace ObjectMapping

namespace Logged

variable {ε α β : Type}

/-- What a computation ends with. -/
def value (computation : Logged ε α) : Except ε α :=
  computation.outcome.1

/-- What the computation ends with does not depend on the records left before. -/
def IsSteady (computation : Logged ε α) : Prop :=
  ∀ records, (computation.run.run records).1 = computation.value

@[simp] theorem value_pure (a : α) : (pure a : Logged ε α).value = .ok a := rfl

@[simp] theorem value_mk (outcome : Except ε α) :
    value (ExceptT.mk (pure outcome) : Logged ε α) = outcome := rfl

theorem isSteady_pure (a : α) : (pure a : Logged ε α).IsSteady := fun _ => rfl

theorem isSteady_throw (e : ε) : (throw e : Logged ε α).IsSteady := fun _ => rfl

theorem isSteady_mk (outcome : Except ε α) :
    IsSteady (ExceptT.mk (pure outcome) : Logged ε α) := fun _ => rfl

theorem isSteady_record (level : LogLevel) (logger text : String) :
    (record level logger text : Logged ε Unit).IsSteady := fun _ => rfl

/-- A computation in two parts, run behind some records. -/
theorem run_bind (first : Logged ε α) (next : α → Logged ε β) (records : List LogRecord) :
    (((first >>= next).run.run records).1 : Except ε β) =
      match first.run.run records with
      | (.ok a, later) => ((next a).run.run later).1
      | (.error e, _) => .error e := by
  rw [ExceptT.run_bind, StateT.run_bind]
  cases first.run.run records with
  | mk outcome later => cases outcome <;> rfl

/-- A computation in two parts ends as its second part does with the value of the first. -/
theorem value_bind (first : Logged ε α) {next : α → Logged ε β}
    (steady : ∀ a, (next a).IsSteady) :
    (first >>= next).value = first.value >>= fun a => (next a).value := by
  rw [value, outcome, run_bind, value, outcome]
  cases first.run.run [] with
  | mk outcome later =>
    cases outcome with
    | error e => rfl
    | ok a => exact steady a later

theorem IsSteady.bind {first : Logged ε α} {next : α → Logged ε β} (isFirst : first.IsSteady)
    (isNext : ∀ a, (next a).IsSteady) : (first >>= next).IsSteady := by
  intro records
  rw [value_bind first isNext, run_bind, ← isFirst records]
  cases first.run.run records with
  | mk outcome later =>
    cases outcome with
    | error e => rfl
    | ok a => exact isNext a later

/-- A report before a computation does not change what it ends with. -/
@[simp] theorem value_record_bind (level : LogLevel) (logger text : String)
    {next : Unit → Logged ε β} (steady : ∀ u, (next u).IsSteady) :
    (record level logger text >>= next).value = (next ()).value :=
  value_bind _ steady

/-- Values that are put into another form. -/
@[simp] theorem value_bind_pure (first : Logged ε α) (f : α → β) :
    (first >>= fun a => pure (f a)).value = first.value.map f := by
  rw [value_bind first fun _ => isSteady_pure _]
  cases first.value <;> rfl

/-- A computation in two parts that ends with a result has a result of its first part. -/
theorem exists_of_value_bind {first : Logged ε α} {next : α → Logged ε β} {b : β}
    (given : (first >>= next).value = .ok b) (steady : ∀ a, (next a).IsSteady) :
    ∃ a, first.value = .ok a ∧ (next a).value = .ok b := by
  rw [value_bind first steady] at given
  cases isFirst : first.value with
  | error e => rw [isFirst] at given; cases given
  | ok a =>
    rw [isFirst] at given
    exact ⟨a, rfl, given⟩

theorem exists_of_value_bind_pure {first : Logged ε α} {f : α → β} {b : β}
    (given : (first >>= fun a => pure (f a)).value = .ok b) :
    ∃ a, first.value = .ok a ∧ f a = b := by
  obtain ⟨a, isFirst, same⟩ := exists_of_value_bind given fun _ => isSteady_pure _
  exact ⟨a, isFirst, Except.ok.inj same⟩

/-- Two computations that end with results end with what is made of both. -/
theorem exists_value_both {γ : Type} {first : Logged ε α} {second : Logged ε β}
    (steady : second.IsSteady) (isFirst : ∃ a, first.value = .ok a)
    (isSecond : ∃ b, second.value = .ok b) (f : α → β → γ) :
    ∃ c, (first >>= fun a => second >>= fun b => pure (f a b) : Logged ε γ).value = .ok c := by
  obtain ⟨a, isA⟩ := isFirst
  obtain ⟨b, isB⟩ := isSecond
  refine ⟨f a b, ?_⟩
  rw [value_bind _ fun _ => steady.bind fun _ => isSteady_pure _, isA]
  show (second >>= fun b => pure (f a b)).value = _
  rw [value_bind_pure, isB]
  rfl

/-- Going through a list in steady steps is steady. -/
theorem isSteady_foldlM {step : β → α → Logged ε β} (steady : ∀ b a, (step b a).IsSteady)
    (start : β) (list : List α) : (list.foldlM step start).IsSteady := by
  induction list generalizing start with
  | nil => exact isSteady_pure start
  | cons a rest ih =>
    rw [List.foldlM_cons]
    exact (steady start a).bind fun _ => ih _

theorem value_foldlM {step : β → α → Logged ε β} (steady : ∀ b a, (step b a).IsSteady)
    (start : β) (list : List α) :
    (list.foldlM step start).value = list.foldlM (fun b a => (step b a).value) start := by
  induction list generalizing start with
  | nil => rfl
  | cons a rest ih =>
    rw [List.foldlM_cons, value_bind _ fun _ => isSteady_foldlM steady _ _, List.foldlM_cons]
    congr 1
    funext next
    exact ih next

end Logged

open Logged

variable {β : Type} (classes : ClassTable Code)

theorem isSteady_resultType (getter : Getter β) : (resultType getter).IsSteady := by
  rw [resultType]
  split
  · exact isSteady_mk _
  · exact (isSteady_record _ _ _).bind fun _ => isSteady_pure _

/-- The result type that a getter declares, evaluated. -/
theorem value_resultType (getter : Getter β) :
    (resultType getter).value =
      match getter.result? with
      | some declared => declared.asResult
      | none => .ok .any := by
  rw [resultType]
  cases getter.result? with
  | some declared => exact value_mk _
  | none => exact value_record_bind _ _ _ fun _ => isSteady_pure _

namespace ClassTable

theorem isSteady_resultTypes (accepts : Property β → Bool)
    (properties : Entries String (Property β)) :
    (resultTypes accepts properties).IsSteady := by
  fun_induction resultTypes accepts properties with
  | case1 => exact isSteady_pure _
  | case2 name p rest getter isGetter accepted ih =>
    exact (isSteady_resultType getter).bind fun _ => ih.bind fun _ => isSteady_pure _
  | case3 name p rest getter isGetter accepted ih => exact ih
  | case4 name p rest isGetter ih => exact ih

theorem isSteady_contributedAnnotations (c : ClassInfo Code) :
    (classes.contributedAnnotations c).IsSteady := by
  rw [contributedAnnotations]
  split
  · exact isSteady_pure _
  · split
    · exact (isSteady_record _ _ _).bind fun _ => isSteady_pure _
    · exact isSteady_throw _

/-- What a class contributes: its annotations resolved, or as they are written if the
first failure among them is a tolerated one. -/
theorem value_contributedAnnotations (c : ClassInfo Code) :
    (classes.contributedAnnotations c).value =
      match resolveEntries c.annotations with
      | .ok resolved => .ok resolved
      | .error error => if error.isTolerated then .ok c.annotations else .error error := by
  rw [contributedAnnotations]
  cases resolveEntries c.annotations with
  | ok resolved => rfl
  | error error =>
    cases tolerated : error.isTolerated with
    | true =>
      simp only [tolerated, if_true]
      exact value_record_bind _ _ _ fun _ => isSteady_pure _
    | false =>
      simp only [tolerated, Bool.false_eq_true, if_false]
      rfl

theorem isSteady_classAnnotations (c : ClassId) : (classes.classAnnotations c).IsSteady :=
  isSteady_foldlM
    (fun _ ancestor => (classes.isSteady_contributedAnnotations ancestor).bind fun _ =>
      isSteady_pure _) _ _

theorem isSteady_instanceAnnotations (c : ClassId) : (classes.instanceAnnotations c).IsSteady :=
  (classes.isSteady_classAnnotations c).bind fun _ => isSteady_pure _

theorem isSteady_columnType (c : ClassInfo Code) (annotations : Entries String TypeExpr)
    (column : EntityColumn) : (columnType c annotations column).IsSteady := by
  have untyped : (columnType.untyped c column).IsSteady :=
    (isSteady_record _ _ _).bind fun _ => isSteady_pure _
  rw [columnType]
  split
  · exact isSteady_pure _
  · exact untyped
  · exact isSteady_pure _
  · exact isSteady_pure _
  · exact untyped

theorem isSteady_columnTypesOf (c : ClassInfo Code) (annotations : Entries String TypeExpr)
    (columns : List EntityColumn) : (columnTypesOf c annotations columns).IsSteady := by
  induction columns with
  | nil => exact isSteady_pure _
  | cons column rest ih =>
    exact (isSteady_columnType c annotations column).bind fun _ => ih.bind fun _ =>
      isSteady_pure _

theorem isSteady_columnTypes (c : ClassId) (layout : EntityLayout) :
    (classes.columnTypes c layout).IsSteady :=
  (classes.isSteady_classAnnotations c).bind fun _ =>
    (isSteady_columnTypesOf _ _ _).bind fun _ => isSteady_pure _

theorem isSteady_fieldTypes (c : ClassId) (layout : RecordLayout)
    (accepts : RecordField → Bool) : (classes.fieldTypes c layout accepts).IsSteady :=
  (classes.isSteady_classAnnotations c).bind fun _ => isSteady_pure _

theorem isSteady_recordSources (c : ClassId) (layout : RecordLayout) :
    (classes.recordSources c layout).IsSteady :=
  (classes.isSteady_fieldTypes c layout _).bind fun _ =>
    (isSteady_resultTypes _ _).bind fun _ => isSteady_pure _

theorem isSteady_addProperties (writableOnly : Bool) (members : Entries String TypeExpr)
    (properties : Entries String (Property Code)) :
    (interfaceMembers.addProperties writableOnly members properties).IsSteady := by
  fun_induction interfaceMembers.addProperties writableOnly members properties with
  | case1 => exact isSteady_pure _
  | case2 members name p rest isGetter ih => exact ih
  | case3 members name p rest getter isGetter hidden ih => exact ih
  | case4 members name p rest getter isGetter shown ih =>
    exact (isSteady_resultType getter).bind fun type => ih type

theorem isSteady_interfaceMembers (c : ClassInfo Code) (writableOnly : Bool) :
    (interfaceMembers c writableOnly).IsSteady :=
  (isSteady_mk _).bind fun _ => isSteady_addProperties _ _ _

theorem isSteady_gatherMembers (writableOnly : Bool) (found : Entries String TypeExpr)
    (line : List (ClassInfo Code)) : (gatherMembers writableOnly found line).IsSteady := by
  induction line generalizing found with
  | nil => exact isSteady_pure _
  | cons c rest ih =>
    exact (isSteady_interfaceMembers c writableOnly).bind fun _ => ih _

theorem isSteady_plainSources (c : ClassId) : (classes.plainSources c).IsSteady :=
  (classes.isSteady_instanceAnnotations c).bind fun _ =>
    (isSteady_resultTypes _ _).bind fun _ => isSteady_pure _

theorem isSteady_plainTargets (c : ClassId) : (classes.plainTargets c).IsSteady :=
  (classes.isSteady_instanceAnnotations c).bind fun _ =>
    (isSteady_resultTypes _ _).bind fun _ => isSteady_pure _

end ClassTable

namespace Provider

variable (provider : Provider) (type : TypeExpr)

theorem isSteady_readable : (provider.readable classes type).IsSteady := by
  rw [readable.eq_def]
  split
  case h_4 =>
    split
    · exact classes.isSteady_columnTypes _ _
    · exact isSteady_pure _
  case h_5 =>
    split
    · exact classes.isSteady_recordSources _ _
    · exact isSteady_pure _
  case h_6 => exact ClassTable.isSteady_gatherMembers _ _ _
  case h_7 => exact classes.isSteady_plainSources _
  all_goals exact isSteady_pure _

theorem isSteady_sources [PackageReading] : (provider.sources classes type).IsSteady :=
  (provider.isSteady_readable classes type).bind fun _ => isSteady_pure _

end Provider

namespace Registry

variable (registry : Registry) (type : TypeExpr)

/-- The provider that a registry asks is one of its own and is for the type. -/
theorem isFor_of_resolve {registry : Registry} {type : TypeExpr} {provider : Provider}
    (resolved : registry.resolve classes type = some provider) :
    provider ∈ registry.providers ∧ provider.isFor classes type = true := by
  have isFor := List.find?_some resolved
  exact ⟨List.mem_of_find?_eq_some resolved, isFor⟩

/-- A registry lists what the provider lists that it asks. -/
theorem value_discover {α : Type} (side : Side)
    {list : Provider → Logged EvaluationError (List α)} {provider : Provider}
    (resolved : registry.resolve classes type = some provider) :
    (registry.discover classes side type list).value = (list provider).value := by
  rw [discover, resolved]
  show (list provider >>= _).value = _
  rw [value_bind _ fun _ => (isSteady_record _ _ _).bind fun _ => isSteady_pure _]
  cases (list provider).value <;> rfl

theorem isSteady_discover {α : Type} (side : Side)
    {list : Provider → Logged EvaluationError (List α)}
    (steady : ∀ provider, (list provider).IsSteady) :
    (registry.discover classes side type list).IsSteady := by
  rw [discover]
  split
  · exact (isSteady_record _ _ _).bind fun _ => isSteady_pure _
  · exact (steady _).bind fun _ => (isSteady_record _ _ _).bind fun _ => isSteady_pure _

end Registry

end ObjectMapping
