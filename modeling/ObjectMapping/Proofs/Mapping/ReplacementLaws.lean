import ObjectMapping.Proofs.Discovery.DistinctNames
import ObjectMapping.Proofs.Discovery.Modes
import ObjectMapping.Proofs.Mapping.FieldwiseReplacing
import ObjectMapping.Proofs.Package.Runtime

/-!
# Laws of discovered replacements

Properties of frozen records and models are discovered as replacements. Their setter stages
obey the laws of writing fields (`discovered_replacements_are_lawful`): each makes a new
instance that shows the written value and for the rest shows what the given one showed, the
last one of several values counts, and the order of different properties does not matter.

What the laws ask for concerns the class of the given instance, which may be a subclass of
that for which the properties were discovered (`ClassTable.CanReplace`). Such a subclass may
refuse a value that the class takes, and a model may show a property in front of a field
(`not_lawful_for_all_instances`).
-/

namespace ObjectMapping

section Laws

variable [Packages] {classes : ClassTable Code} {base : World} {type : TypeExpr} {own : Nat}
  {r : Instance} {names : List String} {discovered : List TargetProperty}

/-- The setter stage that writes a value, whatever the source. -/
def TargetProperty.stageFor (classes : ClassTable Code) (t : TargetProperty) (v : Value) : Stage :=
  t.setter classes fun _ => pure v

theorem TargetProperty.stageFor_eq {t : TargetProperty} {replacer : Replacer}
    (mode : t.mode = .replacement replacer) (v target source : Value) :
    t.stageFor classes v target source = replacer target t.name v := by
  rw [stageFor, setter, mode]
  exact pure_bind _ _

/-- The instance can be given values for what is discovered for the type under the names, which
are those of all fields that can be set at all. Either the type is a frozen record, and the
instance is one that can be made again with the same parameters, or both are models. Instances
of the class itself take what the class takes. -/
inductive ClassTable.CanReplace (classes : ClassTable Code) (base : World) (type : TypeExpr)
    (own : Nat) (r : Instance) : List String → Prop where
  | record {layout : RecordLayout} (isFrozen : Registry.IsFrozenRecord classes type)
      (remakes : classes.RemakesFreely base own r layout)
      (takes : ∀ c inherited, type.classId? = some c → classes.recordLayout? c = some inherited →
        inherited.parameters.map (·.name) ⊆ layout.parameters.map (·.name)) :
      CanReplace classes base type own r (layout.parameters.map (·.name))
  | model {layout : ModelLayout} (isModel : Registry.standard.resolve classes type = some .model)
      (copies : classes.CopiesFreely base own r layout)
      (takes : ∀ c inherited, type.classId? = some c → classes.modelLayout? c = some inherited →
        inherited.fields.map (·.name) ⊆ layout.fields.map (·.name)) :
      CanReplace classes base type own r (layout.fields.map (·.name))

/-- The stage of a property makes a new instance of the class of the target. It shows the value
under the name of the property, and what the target shows under all other names. -/
def ClassTable.SetsOnly (classes : ClassTable Code) (base : World) (names : List String)
    (target source : Value) (t : TargetProperty) (v : Value) : Prop :=
  ∃ place w, (t.stageFor classes v target source).Ends base (.object place) w ∧
    base.Keeps [] w ∧
    classes.classIn w.heap (.object place) = classes.classIn base.heap target ∧
    (classes.readAttribute (.object place) t.name).Ends w v w ∧
    ∀ name ∈ names, name ≠ t.name → (classes.readAttribute (.object place) name).run.run w =
      (((classes.readAttribute target name).run.run base).1, w)

/-- Two properties obey the laws of writing fields on a target. -/
structure ClassTable.WritesLawfully (classes : ClassTable Code) (base : World)
    (names : List String) (target source : Value) (a b : TargetProperty) (u v : Value) :
    Prop where
  sets : classes.SetsOnly base names target source a u
  /-- The last value counts. -/
  again : classes.EndTheSame base names
    (do
      let next ← a.stageFor classes u target source
      a.stageFor classes v next source)
    (a.stageFor classes v target source)
  /-- Different properties can be written in either order. -/
  swapped : a ≠ b → classes.EndTheSame base names
    (do
      let next ← a.stageFor classes u target source
      b.stageFor classes v next source)
    (do
      let next ← b.stageFor classes v target source
      a.stageFor classes u next source)

/-- Replacing field by field is lawful. -/
theorem Replacer.IsFieldwise.writesLawfully {replacer : Replacer}
    {Holds Made : (String → Option Value) → World → Nat → Prop}
    (fieldwise : replacer.IsFieldwise classes base r names Holds Made)
    (found : base.heap.get? own = some (.record r)) {values : String → Option Value}
    (holds : Holds values base own) {a b : TargetProperty} (mode : a.mode = .replacement replacer)
    (mode' : b.mode = .replacement replacer) (mem : a.name ∈ names) (mem' : b.name ∈ names)
    (apart : a ≠ b → a.name ≠ b.name) {u v : Value} (within : u.Within base.heap.next)
    (within' : v.Within base.heap.next) (source : Value) :
    classes.WritesLawfully base names (.object own) source a b u v where
  sets := by
    obtain ⟨place, w, ended, kept, ⟨r', found', isClass⟩, written, others⟩ :=
      fieldwise.sets holds mem within
    refine ⟨place, w, ?_, kept, ?_, written, others⟩
    · rwa [TargetProperty.stageFor_eq mode]
    · rw [ClassTable.classIn, ClassTable.classIn, found, found']
      exact isClass
  again := by
    simp only [TargetProperty.stageFor_eq mode]
    exact fieldwise.replaces_again holds mem within within'
  swapped different := by
    simp only [TargetProperty.stageFor_eq mode, TargetProperty.stageFor_eq mode']
    exact fieldwise.replaces_swapped holds (apart different) mem mem' within within'

/-- The setter stages of discovered replacements obey the laws of writing fields on every
instance that can be given values for what is discovered. -/
theorem discovered_replacements_are_lawful (lawful : Packages.CopiesModels)
    (fields : classes.FieldsApart)
    (given : (Registry.standard.targets classes type).outcome.1 = .ok discovered)
    (replaceable : classes.CanReplace base type own r names) {a b : TargetProperty}
    (isDiscovered : a ∈ discovered) (isDiscovered' : b ∈ discovered) {replacer replacer' : Replacer}
    (mode : a.mode = .replacement replacer) (mode' : b.mode = .replacement replacer')
    {u v : Value} (within : u.Within base.heap.next) (within' : v.Within base.heap.next)
    (source : Value) : classes.WritesLawfully base names (.object own) source a b u v := by
  have apart (different : a ≠ b) : a.name ≠ b.name := fun sameName =>
    different (List.inj_on_of_nodup_map (Registry.nodup_names_targets fields given) isDiscovered
      isDiscovered' sameName)
  cases replaceable with
  | @record layout isFrozen remakes takes =>
    have each {t : TargetProperty} (mem : t ∈ discovered) :
        t.mode = .replacement classes.replaceField ∧
          t.name ∈ layout.parameters.map (·.name) := by
      obtain ⟨isReplaced, c, inherited, isClass, isRecord, isParameter⟩ :=
        Registry.replaced_of_isFrozenRecord isFrozen given t mem
      exact ⟨isReplaced, takes c inherited isClass isRecord
        ((RecordLayout.mem_names_parameters_iff t.name).mpr isParameter)⟩
    exact remakes.isFieldwise.writesLawfully remakes.found remakes.showsValues
      (each isDiscovered).1 (each isDiscovered').1 (each isDiscovered).2 (each isDiscovered').2
      apart within within' source
  | @model layout isModel copies takes =>
    have each {t : TargetProperty} (mem : t ∈ discovered) {replacer : Replacer}
        (mode : t.mode = .replacement replacer) :
        t.mode = .replacement classes.copyWithUpdate ∧ t.name ∈ layout.fields.map (·.name) := by
      obtain ⟨rfl, c, inherited, isClass, isLayout, f, isField, sameName⟩ :=
        Registry.replaced_of_isModel isModel given t mem replacer mode
      exact ⟨mode, takes c inherited isClass isLayout (List.mem_map.mpr ⟨f, isField, sameName⟩)⟩
    exact (copies.isFieldwise lawful).writesLawfully copies.found copies.storesValues
      (each isDiscovered mode).1 (each isDiscovered' mode').1 (each isDiscovered mode).2
      (each isDiscovered' mode').2 apart within within' source

end Laws

/-! ## Points and sheets -/

open scoped RuntimePackages

/-- A record of two numbers and of a third one that nobody gives. The second number may be
given or not. -/
def pointLayout (takesHeight : Bool) : RecordLayout where
  fields := [("left", true), ("height", takesHeight), ("moves", false)].map fun entry => {
    name := entry.1, kind := .stored, declared := .standard .int
    default? := some (.copied (.number 0)), accepted := entry.2, nameOnly := false }
  isFrozen := true
  isSlotted := false
  hasAfterInit := false

/-- A frozen model with a title. -/
def sheetLayout : ModelLayout where
  fields := [{ name := "title", type := .standard .str, default? := none, isFrozen := false }]
  isFrozen? := some true
  computed := []
  concealed := []
  classLevel := []

/-- Points, points that are all of one height, classes that have a title of their own, and
sheets, which inherit from these. -/
def pointClasses : ClassTable Code where
  classes := #[
    { name := ⟨.declared 0, "shapes", "Point", "Point"⟩
      lineage := [.declared 0, .standard .object]
      initializer? := some .record
      guard? := some (.frozenRecord ["left", "height", "moves"] false)
      record? := some (pointLayout true) },
    { name := ⟨.declared 1, "shapes", "Floor", "Floor"⟩
      lineage := [.declared 1, .declared 0, .standard .object]
      initializer? := some .record
      guard? := some (.frozenRecord ["left", "height", "moves"] false)
      record? := some (pointLayout false) },
    { name := ⟨.declared 2, "shapes", "Titled", "Titled"⟩
      lineage := [.declared 2, .standard .object]
      members := [("title", .property {
        getter? := some {
          label := "title", result? := none, body := fun _ => pure (.text "untitled") }
        setter? := none })] },
    { name := ⟨.declared 3, "shapes", "Sheet", "Sheet"⟩
      lineage := [.declared 3, .declared 2, .standard .modelBase, .standard .object]
      initializer? := some .model
      guard? := some .model
      model? := some sheetLayout }]

/-- An instance of one of the record classes. -/
def pointRecord (c : Nat) (left height moves : Int) : Instance where
  classId := .declared c
  attributes := [
    ("left", .number left), ("height", .number height), ("moves", .number moves)]

/-- A sheet that its constructor has prepared or not. -/
def sheetRecord (isPrepared : Bool) : Instance where
  classId := .declared 3
  attributes := [("title", .text "plan")]
  isPrepared := isPrepared

/-- A point, a floor, and two sheets. -/
def pointWorld : World where
  heap := ⟨#[.record (pointRecord 0 1 2 7), .record (pointRecord 1 1 0 0),
    .record (sheetRecord true), .record (sheetRecord false)]⟩

/-- The properties of points. -/
def pointTargets : List TargetProperty :=
  ["left", "height"].mapIdx fun identity name => {
    identity := identity, owner := pointClasses.typeOf (.declared 0), name := name
    type := .standard .int, mode := .replacement pointClasses.replaceField }

/-- The property of sheets. -/
def sheetTarget : TargetProperty where
  identity := 0
  owner := pointClasses.typeOf (.declared 3)
  name := "title"
  type := .standard .str
  mode := .replacement pointClasses.copyWithUpdate

theorem discovered_point :
    (Registry.standard.targets pointClasses (pointClasses.typeOf (.declared 0))).outcome.1 =
      .ok pointTargets := by
  cbv

theorem discovered_sheet :
    (Registry.standard.targets pointClasses (pointClasses.typeOf (.declared 3))).outcome.1 =
      .ok [sheetTarget] := by
  cbv

theorem fieldsApart_pointClasses : pointClasses.FieldsApart := by
  intro c mem
  simp only [pointClasses, List.mem_toArray, List.mem_cons, List.not_mem_nil, or_false] at mem
  rcases mem with rfl | rfl | rfl | rfl
  all_goals exact ⟨by rintro _ ⟨⟩ <;> decide, by rintro _ ⟨⟩ <;> decide⟩

theorem closed_pointWorld : pointWorld.heap.Closed := by
  intro address object found v mem
  have known : (∃ c left height moves, object = .record (pointRecord c left height moves)) ∨
      ∃ isPrepared, object = .record (sheetRecord isPrepared) := by
    match address with
    | 0 => exact .inl ⟨0, 1, 2, 7, (Option.some.inj found).symm⟩
    | 1 => exact .inl ⟨1, 1, 0, 0, (Option.some.inj found).symm⟩
    | 2 => exact .inr ⟨true, (Option.some.inj found).symm⟩
    | 3 => exact .inr ⟨false, (Option.some.inj found).symm⟩
    | _ + 4 => cases found
  refine Value.within_of_plain ?_
  rcases known with ⟨_, _, _, _, rfl⟩ | ⟨_, rfl⟩
  · simp [Object.values, pointRecord] at mem
    rcases mem with rfl | rfl | rfl <;> rfl
  · simp [Object.values, sheetRecord] at mem
    rw [mem]
    rfl

/-- Points can be made again with another place. -/
theorem remakesFreely_point :
    pointClasses.RemakesFreely pointWorld 0 (pointRecord 0 1 2 7) (pointLayout true) where
  found := rfl
  isRecord := rfl
  generates := {
    isFrozen := rfl
    constructor := ⟨_, rfl, rfl⟩
    distinct := by decide
    noInitOnly := by simp [pointLayout]
    plain := by
      intro f mem _
      have nothing : pointClasses.owned? (.declared 0) f.name = none := rfl
      refine ⟨?_, fun owner m owned => ?_⟩
      · simp [pointLayout] at mem
        rcases mem with rfl | rfl | rfl <;> decide
      · cases nothing.symm.trans owned }
  settles hasAfterInit := by cases hasAfterInit
  closed := closed_pointWorld
  shared name owner v owned := by
    have nothing : pointClasses.owned? (.declared 0) name = none := rfl
    cases nothing.symm.trans owned
  defaults := by
    intro f mem d isDefault
    simp [pointLayout] at mem
    rcases mem with rfl | rfl | rfl <;> cases isDefault <;> exact Value.within_of_plain rfl
  noAfterInit := rfl
  shows := by
    intro f mem isParameter
    simp [pointLayout] at mem
    rcases mem with rfl | rfl | rfl
    · exact ⟨.number 1, rfl⟩
    · exact ⟨.number 2, rfl⟩
    · cases isParameter
  isCallable := by
    have called : (pointClasses.instantiate (.declared 0) {
        named := [("left", .number 0), ("height", .number 0)] }).Ends pointWorld (.object 4)
        { pointWorld with
          heap := pointWorld.heap.allocate (.record (pointRecord 0 0 0 0)) } := by cbv
    refine ⟨[("left", .number 0), ("height", .number 0)], ⟨?_, ?_⟩, called.succeeds⟩
    · intro f mem isParameter
      simp [pointLayout] at mem
      rcases mem with rfl | rfl | rfl
      · exact ⟨.number 0, rfl⟩
      · exact ⟨.number 0, rfl⟩
      · cases isParameter
    · simp [pointLayout, RecordField.isParameter]

theorem canReplace_point :
    pointClasses.CanReplace pointWorld (pointClasses.typeOf (.declared 0)) 0 (pointRecord 0 1 2 7)
      ["left", "height"] := by
  refine .record ⟨rfl, _, _, rfl, rfl, rfl⟩ remakesFreely_point ?_
  intro c inherited isClass isRecord
  cases isClass
  cases isRecord
  exact List.Subset.refl _

/-- Both numbers of a point can be replaced, in either order. -/
theorem discovered_replacements_are_lawful_point :
    ∃ a b, a ∈ pointTargets ∧ b ∈ pointTargets ∧ a.name = "left" ∧ b.name = "height" ∧
      pointClasses.WritesLawfully pointWorld ["left", "height"] (.object 0) .null a b
        (.number 10) (.number 20) := by
  refine ⟨pointTargets[0], pointTargets[1], ?_, ?_, rfl, rfl, ?_⟩
  · exact List.getElem_mem _
  · exact List.getElem_mem _
  · exact discovered_replacements_are_lawful RuntimePackages.copiesModels
      fieldsApart_pointClasses discovered_point canReplace_point (List.getElem_mem _)
      (List.getElem_mem _) rfl rfl (Value.within_of_plain rfl) (Value.within_of_plain rfl) .null

/-! ## Instances that cannot be replaced -/

/-- The instance is one of the type, but replacing a discovered property of it does not set
that property only. -/
def ClassTable.ReplacesOtherwise (classes : ClassTable Code) (base : World) (c : ClassId)
    (target : Value) : Prop :=
  classes.isInstanceIn base.heap target c = true ∧
  ∃ discovered, (Registry.standard.targets classes (classes.typeOf c)).outcome.1 =
      .ok discovered ∧
    ∃ a ∈ discovered, ∃ replacer, a.mode = .replacement replacer ∧
      ∃ v : Value, v.Within base.heap.next ∧ ∀ names source,
        ¬ classes.SetsOnly base names target source a v

/-- A stage that fails sets nothing. -/
theorem ClassTable.not_setsOnly_of_error {classes : ClassTable Code} {base : World}
    {names : List String} {target source v : Value} {t : TargetProperty} {fault : Fault} {w : World}
    (failed : (t.stageFor classes v target source).run.run base = (.error fault, w)) :
    ¬ classes.SetsOnly base names target source t v := by
  rintro ⟨place, w', ended, -⟩
  exact Run.not_succeeds_of_error failed ended.succeeds

/-- A copy of the first sheet with another title has been made. -/
def retitledWorld : World where
  heap := pointWorld.heap.allocate (.record {
    sheetRecord true with attributes := [("title", .text "map")] })

/-- A floor is a point, but it does not take another height. A sheet shows the title of its
base in front of its own, and one that its constructor has not prepared cannot be copied. -/
theorem not_lawful_for_all_instances :
    pointClasses.ReplacesOtherwise pointWorld (.declared 0) (.object 1) ∧
    pointClasses.ReplacesOtherwise pointWorld (.declared 3) (.object 2) ∧
    pointClasses.ReplacesOtherwise pointWorld (.declared 3) (.object 3) := by
  refine ⟨⟨rfl, _, discovered_point, pointTargets[1], List.getElem_mem _, _, rfl, .number 5,
      Value.within_of_plain rfl, fun names source => ?_⟩,
    ⟨rfl, _, discovered_sheet, sheetTarget, List.mem_singleton_self _, _, rfl, .text "map",
      Value.within_of_plain rfl, fun names source => ?_⟩,
    ⟨rfl, _, discovered_sheet, sheetTarget, List.mem_singleton_self _, _, rfl, .text "map",
      Value.within_of_plain rfl, fun names source => ?_⟩⟩
  · have failed : (pointTargets[1].stageFor pointClasses (.number 5) (.object 1) source).run.run
        pointWorld = (.error (.missingInitOnly "height"), pointWorld) := rfl
    exact ClassTable.not_setsOnly_of_error failed
  · rintro ⟨place, w, ended, -, -, shown, -⟩
    have made : (sheetTarget.stageFor pointClasses (.text "map") (.object 2) source).Ends
        pointWorld (.object 4) retitledWorld := rfl
    obtain ⟨⟨⟩, rfl⟩ := made.unique ended
    have untitled : (pointClasses.readAttribute (.object 4) "title").Ends retitledWorld
        (.text "untitled") retitledWorld := rfl
    obtain ⟨same, -⟩ := untitled.unique shown
    simp [Value.text] at same
  · have failed : (sheetTarget.stageFor pointClasses (.text "map") (.object 3) source).run.run
        pointWorld = (.error (.noAttribute ""), pointWorld) := rfl
    exact ClassTable.not_setsOnly_of_error failed

end ObjectMapping
