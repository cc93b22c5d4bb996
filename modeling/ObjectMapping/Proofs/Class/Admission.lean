import ObjectMapping.Class.Instantiation
import ObjectMapping.Proofs.Class.Filling
import ObjectMapping.Proofs.Class.PlainStorage

/-!
# Admission of calls

Calling a class has two parts. First the call is admitted: the class must have instances,
and the arguments must be what its constructor asks for (`ClassTable.admission`). Then the new
instance is filled from what the arguments are bound to (`ClassTable.settle`), which may run
code and fail for reasons of its own. A call is these two parts, one after the other
(`ClassTable.instantiateWith_run`). The arguments of a model are left to its package, and
what has to be among them is what its fields say.

Without arguments the first part depends on the class and on what its constructor requires
alone: a call is admitted exactly if the class has instances and nothing is required
(`ClassTable.admits_nothing_iff`). Neither depends on how often the changes of classes have
been taken up.
-/

namespace ObjectMapping

/-- What the arguments of a call are bound to, before any value is made from it. -/
inductive Bound where
  /-- There is nothing to fill. -/
  | nothing
  | code (body : Code) (bindings : List Binding)
  | record (layout : RecordLayout) (bindings : List Binding)
  | slotted (layout : SlottedLayout) (bindings : List Binding)
  /-- All arguments of a model. -/
  | model (arguments : Arguments)
  /-- The arguments of an entity by name. -/
  | entity (named : Entries String Value)

namespace ClassTable

variable [Packages] (classes : ClassTable Code)

/-- Binds arguments to parameters, or refuses them. -/
def bindOrRefuse (parameters : List Parameter) (arguments : Arguments) : Run (List Binding) :=
  match bindArguments? parameters arguments with
  | some bindings => return bindings
  | none => throw .badCall

/-- Binds the arguments of a call to what an initializer asks for. -/
def bindTo (arguments : Arguments) : Option (ClassInfo Code × Initializer Code) → Run Bound
  | none | some (_, .like _) =>
      if arguments.positional.isEmpty && arguments.named.isEmpty then return .nothing
      else throw .badCall
  | some (_, .code parameters body) => return .code body (← bindOrRefuse parameters arguments)
  | some (ancestor, .record) => do
      let some layout := ancestor.record? | throw .badCall
      return .record layout (← bindOrRefuse layout.parameters arguments)
  | some (ancestor, .slotted) => do
      let some layout := ancestor.slotted? | throw .badCall
      return .slotted layout (← bindOrRefuse (Packages.slottedParameters layout) arguments)
  | some (_, .model) => return .model arguments
  | some (_, .entity) => do
      let _ ← bindOrRefuse Packages.entityParameters arguments
      return .entity arguments.named
  | some (_, .placeholder) => throw .badCall

/-- Fills an instance from what the arguments of the call are bound to. -/
def settle (make : Maker) (isInner : Bool) (c : ClassId) (address : Nat) : Bound → Run Unit
  | .nothing => return
  | .code body bindings => do
      discard (body (.object address :: (← bindings.mapM classes.createBound)))
  | .record layout bindings => do
      let given := (layout.parameters.map (·.name)).zip (← bindings.mapM classes.createBound)
      classes.fillRecord layout (.object address) given layout.fields
      if layout.hasAfterInit then classes.runAfterInit c (.object address)
  | .slotted layout bindings => do
      let values ← bindings.mapM classes.createBound
      Packages.fillSlotted classes layout values fun name v =>
        classes.storeUnguarded (.object address) name v
  | .model arguments => Packages.fillModel classes make isInner c address arguments
  | .entity named =>
      Packages.fillEntity classes c named fun name v =>
        classes.writeAttribute (.object address) name v

omit [Packages] in
theorem bindAll_eq (parameters : List Parameter) (arguments : Arguments) :
    classes.bindAll parameters arguments =
      bindOrRefuse parameters arguments >>= fun bindings => bindings.mapM classes.createBound := by
  rw [bindAll, bindOrRefuse]
  cases bindArguments? parameters arguments with
  | none => rfl
  | some bindings => rw [pure_bind]

/-- Filling an instance is binding the arguments and then settling what is bound. -/
theorem fill_eq (make : Maker) (isInner : Bool) (c : ClassId) (address : Nat)
    (arguments : Arguments) (filling? : Option (ClassInfo Code × Initializer Code)) :
    classes.fill make isInner c address arguments filling? =
      bindTo arguments filling? >>= classes.settle make isInner c address := by
  have nothing (filling? : Option (ClassInfo Code × Initializer Code))
      (fills : classes.fill make isInner c address arguments filling? =
        if arguments.positional.isEmpty && arguments.named.isEmpty then pure ()
        else throw .badCall)
      (binds : bindTo arguments filling? =
        if arguments.positional.isEmpty && arguments.named.isEmpty then pure .nothing
        else throw .badCall) :
      classes.fill make isInner c address arguments filling? =
        bindTo arguments filling? >>= classes.settle make isInner c address := by
    rw [fills, binds]
    split
    · rw [pure_bind]
      rfl
    · rfl
  cases filling? with
  | none => exact nothing none rfl rfl
  | some found =>
    obtain ⟨ancestor, initializer⟩ := found
    cases initializer with
    | like ancestor? => exact nothing _ rfl rfl
    | code parameters body => simp only [fill, bindTo, bindAll_eq, settle, bind_assoc, pure_bind]
    | record =>
      simp only [fill, bindTo]
      cases ancestor.record? with
      | none => rfl
      | some layout => simp only [bindAll_eq, settle, bind_assoc, pure_bind]
    | slotted =>
      simp only [fill, bindTo]
      cases ancestor.slotted? with
      | none => rfl
      | some layout => simp only [bindAll_eq, settle, bind_assoc, pure_bind]
    | model => simp only [fill, bindTo, pure_bind, settle]
    | entity =>
      simp only [fill, bindTo, bindOrRefuse]
      cases bindArguments? Packages.entityParameters arguments with
      | none => rfl
      | some bindings => simp [settle]
    | placeholder => rfl

/-- The first part of a call: the class has to have instances, and the arguments have to be
what its constructor asks for. The answer is the place of the new instance and what there is
to fill it from. -/
def admission (c : ClassId) (arguments : Arguments) : Run (Nat × Bound) := do
  if classes.refusesInstances c then throw .badCall
  let address := (← get).heap.next
  let _ ← Run.allocate (.record { classId := c })
  return (address, ← bindTo arguments (← classes.fillingOf c))

/-- A call is admitted first and then settled. -/
theorem instantiateWith_run (make : Maker) (isInner : Bool) (c : ClassId) (arguments : Arguments)
    (w : World) :
    (classes.instantiateWith make isInner c arguments).run.run w =
      (do
        let admitted ← classes.admission c arguments
        classes.settle make isInner c admitted.1 admitted.2
        return .object admitted.1 : Run Value).run.run w := by
  have world : (get : Run World).Ends w w w := rfl
  have allocated := Run.ends_allocate (.record { classId := c }) w
  rw [instantiateWith, admission]
  cases classes.refusesInstances c with
  | true => rfl
  | false =>
    simp only [Bool.false_eq_true, if_false, pure_bind, bind_assoc, fill_eq]
    rw [world.run_bind, allocated.run_bind, world.run_bind, allocated.run_bind]

/-- Everything that has to be given to a model is given. -/
def IsSufficient (c : ClassId) : Bound → Prop
  | .model arguments => ∃ layout, classes.modelLayout? c = some layout ∧ layout.IsGiven arguments
  | _ => True

/-- Made in the world, the call fails neither because the class has no instances nor because
of the arguments that it is given. -/
def Admits (w : World) (c : ClassId) (arguments : Arguments) : Prop :=
  ∃ address bound w', (classes.admission c arguments).Ends w (address, bound) w' ∧
    classes.IsSufficient c bound

variable {classes} {c : ClassId} {w : World} {arguments : Arguments}

/-! ## Calls that are not admitted -/

section Refused

variable (requires : Packages.RequiresFields)

include requires

theorem isSufficient_of_settle_succeeds {make : Maker} {isInner : Bool} {address : Nat}
    {bound : Bound} (succeeds : (classes.settle make isInner c address bound).Succeeds w) :
    classes.IsSufficient c bound := by
  cases bound with
  | model arguments => exact requires.given succeeds
  | _ => trivial

/-- A call that is not admitted fails. -/
theorem admits_of_instantiate_succeeds (succeeds : (classes.instantiate c arguments).Succeeds w) :
    (classes.changed w.changes).Admits w c arguments := by
  have world : (get : Run World).Ends w w w := rfl
  rw [instantiate, (classes.now_ends w).succeeds_bind_iff, world.succeeds_bind_iff] at succeeds
  rw [Run.succeeds_congr (instantiateWith_run ..)] at succeeds
  obtain ⟨result, w₂, ended⟩ := succeeds
  obtain ⟨⟨address, bound⟩, w₁, admitted, ended⟩ := ended.exists_of_bind
  obtain ⟨⟨⟩, w₃, settled, -⟩ := ended.exists_of_bind
  exact ⟨address, bound, w₁, admitted, isSufficient_of_settle_succeeds requires settled.succeeds⟩

/-- A declared class that is called with success has admitted the call. -/
theorem admits_of_callType_succeeds {name : ClassName} {index : Nat}
    (isDeclared : name.id = .declared index)
    (succeeds : (classes.callType arguments (.named name)).Succeeds w) :
    (classes.changed w.changes).Admits w (.declared index) arguments := by
  rw [callType, isDeclared, callClass] at succeeds
  exact admits_of_instantiate_succeeds requires succeeds

end Refused

/-! ## Calls without arguments -/

omit [Packages] in
/-- Without arguments, parameters can be bound if none of them requires one. -/
theorem isSome_bindParameters_nothing_iff (parameters : List Parameter) :
    (bindParameters [] [] parameters []).isSome = true ↔
      ∀ p ∈ parameters, p.isRequired = false := by
  induction parameters with
  | nil => simp [bindParameters]
  | cons p rest ih =>
    rw [List.forall_mem_cons, ← ih]
    cases kind : p.kind with
    | rest | restByName =>
      simp [bindParameters, kind, Parameter.isRequired, Parameter.isCollecting]
    | positionalOnly | standard | nameOnly =>
      cases default? : p.default? <;>
        simp [bindParameters, bindParameters.bindDefault, kind, default?, Parameter.isRequired,
          Parameter.isCollecting, Parameter.byName, Parameter.byPosition, Entries.get?]

omit [Packages] in
theorem requiredNames_eq_nil_iff (parameters : List Parameter) :
    requiredNames parameters = [] ↔ ∀ p ∈ parameters, p.isRequired = false := by
  simp [requiredNames]

omit [Packages] in
theorem bindOrRefuse_nothing_succeeds_iff (parameters : List Parameter) (w : World) :
    (bindOrRefuse parameters {}).Succeeds w ↔ requiredNames parameters = [] := by
  have bindings : bindArguments? parameters {} = bindParameters [] [] parameters [] := by
    simp [bindArguments?, givesSelf, surplusOf, Entries.contains, Entries.get?]
  rw [requiredNames_eq_nil_iff, ← isSome_bindParameters_nothing_iff, bindOrRefuse, bindings]
  cases bindParameters [] [] parameters [] with
  | none => simpa using Run.not_succeeds_throw _ w
  | some found => exact iff_of_true ⟨found, w, rfl⟩ rfl

omit [Packages] in
/-- Without arguments, a model lacks nothing if all of its fields have defaults. -/
theorem isGiven_nothing_iff (layout : ModelLayout) :
    layout.IsGiven {} ↔ layout.requiredNames = [] := by
  simp [ModelLayout.IsGiven, Entries.contains, Entries.get?, List.eq_nil_iff_forall_not_mem]

variable (classes c)

/-- The names that a way of filling instances requires; nothing where no call can be bound. -/
def requiredBy? : Option (ClassInfo Code × Initializer Code) → Option (List String)
  | none | some (_, .like _) => some []
  | some (_, .code parameters _) => some (requiredNames parameters)
  | some (ancestor, .record) => ancestor.record?.map fun layout => requiredNames layout.parameters
  | some (ancestor, .slotted) =>
      ancestor.slotted?.map fun layout => requiredNames (Packages.slottedParameters layout)
  | some (_, .model) => (classes.modelLayout? c).map (·.requiredNames)
  | some (_, .entity) => some (requiredNames Packages.entityParameters)
  | some (_, .placeholder) => none

/-- What the constructor that a call of the class reaches requires. -/
def calledRequirements? : Option (List String) :=
  classes.requiredBy? c (classes.filling? c)

variable {classes c}

/-- Without arguments, all that is needed is bound in the world. -/
def BindsNothing (classes : ClassTable Code) (w : World) (c : ClassId)
    (filling? : Option (ClassInfo Code × Initializer Code)) : Prop :=
  ∃ bound w', (bindTo {} filling?).Ends w bound w' ∧ classes.IsSufficient c bound

/-- Where parameters are bound, nothing else is needed. -/
theorem bindsNothing_iff_of_parameters
    {filling? : Option (ClassInfo Code × Initializer Code)} (parameters : List Parameter)
    (toBound : List Binding → Bound)
    (binds : bindTo {} filling? =
      bindOrRefuse parameters {} >>= fun bindings => pure (toBound bindings))
    (sufficient : ∀ bindings, classes.IsSufficient c (toBound bindings)) :
    classes.BindsNothing w c filling? ↔ requiredNames parameters = [] := by
  rw [BindsNothing, binds, ← bindOrRefuse_nothing_succeeds_iff parameters w]
  constructor
  · rintro ⟨bound, w', ended, -⟩
    exact ended.succeeds.of_bind
  · rintro ⟨bindings, w', ended⟩
    exact ⟨toBound bindings, w', ended.bind rfl, sufficient bindings⟩

/-- Without arguments, all that is needed is bound exactly if nothing is required. -/
theorem bindsNothing_iff (filling? : Option (ClassInfo Code × Initializer Code)) :
    classes.BindsNothing w c filling? ↔ classes.requiredBy? c filling? = some [] := by
  have refused (failing : bindTo {} filling? = throw .badCall) :
      ¬ classes.BindsNothing w c filling? := by
    rintro ⟨bound, w', ended, -⟩
    rw [failing] at ended
    exact Run.not_succeeds_throw _ w ended.succeeds
  cases filling? with
  | none => exact iff_of_true ⟨.nothing, w, rfl, trivial⟩ rfl
  | some found =>
    obtain ⟨ancestor, initializer⟩ := found
    cases initializer with
    | like ancestor? => exact iff_of_true ⟨.nothing, w, rfl, trivial⟩ rfl
    | placeholder => exact iff_of_false (refused rfl) (by simp [requiredBy?])
    | code parameters body =>
      rw [bindsNothing_iff_of_parameters parameters (.code body) rfl fun _ => trivial]
      simp [requiredBy?]
    | record =>
      cases isRecord : ancestor.record? with
      | none =>
        exact iff_of_false (refused (by simp [bindTo, isRecord])) (by simp [requiredBy?, isRecord])
      | some layout =>
        rw [bindsNothing_iff_of_parameters layout.parameters (.record layout)
          (by simp [bindTo, isRecord]) fun _ => trivial]
        simp [requiredBy?, isRecord]
    | slotted =>
      cases isSlotted : ancestor.slotted? with
      | none =>
        exact iff_of_false (refused (by simp [bindTo, isSlotted]))
          (by simp [requiredBy?, isSlotted])
      | some layout =>
        rw [bindsNothing_iff_of_parameters (Packages.slottedParameters layout) (.slotted layout)
          (by simp [bindTo, isSlotted]) fun _ => trivial]
        simp [requiredBy?, isSlotted]
    | entity =>
      rw [bindsNothing_iff_of_parameters Packages.entityParameters (fun _ => .entity []) rfl
        fun _ => trivial]
      simp [requiredBy?]
    | model =>
      have bound : (bindTo {} (some (ancestor, .model))).Ends w (.model {}) w := rfl
      simp only [BindsNothing, requiredBy?, Option.map_eq_some_iff]
      constructor
      · rintro ⟨_, _, ended, sufficient⟩
        obtain ⟨rfl, -⟩ := bound.unique ended
        obtain ⟨layout, isLayout, isGiven⟩ := sufficient
        exact ⟨layout, isLayout, (isGiven_nothing_iff layout).mp isGiven⟩
      · rintro ⟨layout, isLayout, none⟩
        exact ⟨_, _, bound, layout, isLayout, (isGiven_nothing_iff layout).mpr none⟩

omit [Packages] in
theorem fillingOf_ends (classes : ClassTable Code) (c : ClassId) (w : World) :
    ∃ w', (classes.fillingOf c).Ends w (classes.filling? c) w' := by
  rw [fillingOf, filling?]
  cases classes.initializer? c with
  | none => exact ⟨w, rfl⟩
  | some found =>
    obtain ⟨ancestor, initializer⟩ := found
    cases initializer with
    | placeholder => exact ⟨_, rfl⟩
    | _ => exact ⟨w, rfl⟩

/-- A call without arguments is admitted exactly if the class has instances and the
constructor that the call reaches requires nothing. -/
theorem admits_nothing_iff :
    classes.Admits w c {} ↔
      classes.refusesInstances c = false ∧ classes.calledRequirements? c = some [] := by
  have world : (get : Run World).Ends w w w := rfl
  have allocated := Run.ends_allocate (.record { classId := c }) w
  obtain ⟨w₂, filled⟩ := classes.fillingOf_ends c
    { w with heap := w.heap.allocate (.record { classId := c }) }
  rw [calledRequirements?, ← bindsNothing_iff (w := w₂), Admits, admission, BindsNothing]
  cases refuses : classes.refusesInstances c with
  | true =>
    refine iff_of_false ?_ (by simp)
    rintro ⟨address, bound, w', ended, -⟩
    exact Run.not_succeeds_throw _ w ended.succeeds
  | false =>
    simp only [Bool.false_eq_true, if_false, true_and, Run.Ends]
    simp only [world.run_bind, allocated.run_bind, filled.run_bind]
    constructor
    · rintro ⟨address, bound, w', ended, sufficient⟩
      obtain ⟨bound', w₃, bind, isResult⟩ := Run.Ends.exists_of_bind ended
      cases isResult
      exact ⟨bound, w', bind, sufficient⟩
    · rintro ⟨bound, w', bind, sufficient⟩
      exact ⟨w.heap.next, bound, w', Run.Ends.bind bind rfl, sufficient⟩

/-! ## Changes that are taken up again -/

section Changes

variable (classes : ClassTable Code) (changes : List (ClassId × ClassChange)) (c : ClassId)

omit [Packages] in
/-- Whether a class has instances is the same if changes are taken up again. -/
theorem refusesInstances_changed_again :
    ((classes.changed changes).changed changes).refusesInstances c =
      (classes.changed changes).refusesInstances c := by
  have left : ClassInfo.LeftOrSet fun c : ClassInfo Code => (c.isInterface, c.abstractNames) :=
    .of_left fun c change => by cases change <;> rfl
  obtain ⟨interface, abstract⟩ := Prod.mk.inj (part_changed_again left classes changes c)
  rw [refusesInstances, refusesInstances, isAbstract, isAbstract, interface, abstract,
    initializer?_eq, initializer?_eq, decider?_changed_again]
  cases (classes.changed changes).decider? (fun _ => true) c with
  | none => rfl
  | some found =>
    obtain ⟨a, initializer⟩ := found
    cases initializer <;> rfl

omit [Packages] in
/-- The fields of a model require the same if changes are taken up again. -/
theorem modelLayout?_requiredNames_changed_again :
    (((classes.changed changes).changed changes).modelLayout? c).map (·.requiredNames) =
      ((classes.changed changes).modelLayout? c).map (·.requiredNames) := by
  have left : ClassInfo.LeftOrSet fun c : ClassInfo Code => c.model?.map (·.requiredNames) := by
    refine .of_left fun c change => ?_
    cases change with
    | stored | filledLike => rfl
    | completed =>
      rw [ClassInfo.changed, Option.map_map]
      exact congrArg (Option.map · c.model?) (funext ModelLayout.requiredNames_completed)
  exact part_changed_again left classes changes c

/-- A class is called with the same arguments if changes are taken up again. -/
theorem calledRequirements?_changed_again :
    ((classes.changed changes).changed changes).calledRequirements? c =
      (classes.changed changes).calledRequirements? c := by
  have left : ClassInfo.LeftOrSet fun c : ClassInfo Code => (c.record?, c.slotted?) :=
    .of_left fun c change => by cases change <;> rfl
  rw [calledRequirements?, calledRequirements?, filling?_eq, filling?_eq,
    fillingDecider?_changed_again]
  cases (classes.changed changes).fillingDecider? c with
  | none => rfl
  | some found =>
    obtain ⟨a, initializer⟩ := found
    obtain ⟨record, slotted⟩ := Prod.mk.inj (part_changed_again left classes changes a)
    cases initializer with
    | model => exact modelLayout?_requiredNames_changed_again classes changes c
    | record => exact congrArg (Option.map fun layout => requiredNames layout.parameters) record
    | slotted =>
      exact congrArg
        (Option.map fun layout => requiredNames (Packages.slottedParameters layout)) slotted
    | _ => rfl

end Changes

end ClassTable

end ObjectMapping
