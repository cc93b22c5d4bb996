import ObjectMapping.Proofs.Class.MergedLines
import ObjectMapping.Proofs.Declaration.Layouts

/-!
# Lines of declared classes

The line of a declared class is merged from the lines of its bases. So in a program whose
classes stand behind their bases, and whose bases agree on one line, the ancestors of
ancestors are ancestors (`Blueprint.linesClosed_runnable`). No run changes that, and what
is shown of runs over tables with closed lines holds of every such program.
-/

namespace ObjectMapping

/-- The ancestors of an ancestor are ancestors too. -/
def ClassTable.LinesClosed (classes : ClassTable Code) : Prop :=
  ∀ a, ∀ b ∈ (classes.info a).lineage, ∀ c ∈ (classes.info b).lineage,
    c ∈ (classes.info a).lineage

theorem ClassTable.LinesClosed.isSubclass_trans {classes : ClassTable Code}
    (closed : classes.LinesClosed) {a b c : ClassId} (first : classes.isSubclass a b = true)
    (second : classes.isSubclass b c = true) : classes.isSubclass a c = true := by
  simp only [isSubclass, Bool.or_eq_true, beq_iff_eq, List.contains_iff_mem] at *
  rcases first with rfl | above
  · exact second
  rcases second with rfl | above'
  · exact .inr above
  · exact .inr (closed a b above c above')

/-- A class that is there when the one at an index is declared. -/
def ClassId.IsBefore (index : Nat) : ClassId → Prop
  | .standard _ => True
  | .declared earlier => earlier < index

/-- What a class inherits from: its bases and its line. -/
structure Ancestry where
  id : ClassId
  bases : List ClassId
  line : List ClassId

/-! ## Ancestries of some classes -/

/-- The line of a class, where declared classes have some ancestries. -/
def lineAmong (ancestries : Array Ancestry) : ClassId → List ClassId
  | .standard s => s.lineage
  | .declared index => (ancestries[index]?.map (·.line)).getD [.declared index, .standard .object]

/-- Each class comes behind its bases, and these agree on one line. -/
structure BasesAgree (ancestries : Array Ancestry) : Prop where
  before : ∀ (index : Nat) (a : Ancestry), ancestries[index]? = some a →
    ∀ base ∈ a.bases, base.IsBefore index
  mergeable : ∀ a ∈ ancestries, Mergeable (linesBehind a.bases (lineAmong ancestries))

/-- Each class has the line that is merged from the lines of its bases, if these are there
before it. -/
def Linearized (ancestries : Array Ancestry) : Prop :=
  ∀ (index : Nat) (a : Ancestry), ancestries[index]? = some a →
    (∀ base ∈ a.bases, base.IsBefore index) →
    a.line = linearize a.id a.bases (lineAmong ancestries)

/-- Each class is found at the index by which it is known. -/
def Placed (ancestries : Array Ancestry) : Prop :=
  ∀ (index : Nat) (a : Ancestry), ancestries[index]? = some a → a.id = .declared index

section Lines

variable {ancestries : Array Ancestry}

/-- Further classes leave the lines of those before as they are. -/
theorem lineAmong_push {index : Nat} (a : Ancestry) (inside : index ≤ ancestries.size)
    {c : ClassId} (before : c.IsBefore index) :
    lineAmong (ancestries.push a) c = lineAmong ancestries c := by
  cases c with
  | standard => rfl
  | declared earlier =>
    have here : earlier < ancestries.size := Nat.lt_of_lt_of_le before inside
    rw [lineAmong, lineAmong, Array.getElem?_push_lt here, Array.getElem?_eq_getElem here]

/-- The line of a class depends on the lines of its bases only. -/
theorem linearize_congr {bases : List ClassId} {lineOf lineOf' : ClassId → List ClassId}
    (same : ∀ base ∈ bases, lineOf base = lineOf' base) (c : ClassId) :
    linearize c bases lineOf = linearize c bases lineOf' := by
  unfold linearize
  rw [List.map_congr_left same]

theorem Linearized.push (linearized : Linearized ancestries) {a : Ancestry}
    (merged : a.line = linearize a.id a.bases (lineAmong ancestries)) :
    Linearized (ancestries.push a) := by
  intro index a' found before
  rcases Nat.lt_trichotomy index ancestries.size with inside | rfl | outside
  · rw [Array.getElem?_push_lt inside, ← Array.getElem?_eq_getElem inside] at found
    rw [linearized index a' found before]
    exact linearize_congr (fun base mem =>
      (lineAmong_push a (Nat.le_of_lt inside) (before base mem)).symm) _
  · rw [Array.getElem?_push_size] at found
    cases found
    rw [merged]
    exact linearize_congr (fun base mem =>
      (lineAmong_push a (Nat.le_refl _) (before base mem)).symm) _
  · rw [Array.getElem?_eq_none (by rw [Array.size_push]; omega)] at found
    cases found

theorem StandardClass.closed_lineage (s : StandardClass) :
    ∀ b ∈ lineAmong ancestries (.standard s), ∀ c ∈ lineAmong ancestries b,
      c ∈ lineAmong ancestries (.standard s) := by
  have closed : ∀ b ∈ s.lineage, ∀ c ∈ lineAmong #[] b, c ∈ s.lineage := by
    cases s <;> decide
  intro b within c above
  -- All that stands in the line of a standard class is standard.
  obtain ⟨s', -, rfl⟩ := List.mem_map.mp within
  exact closed (.standard s') within c above

/-- If each line is merged from the lines of the bases, then what is behind a class in a
line is also behind the class that leads the line. -/
theorem Linearized.closed (linearized : Linearized ancestries) (placed : Placed ancestries)
    (agree : BasesAgree ancestries) (a : ClassId) :
    ∀ b ∈ lineAmong ancestries a, ∀ c ∈ lineAmong ancestries b, c ∈ lineAmong ancestries a := by
  have ofNone (index : Nat)
      (line : lineAmong ancestries (.declared index) = [.declared index, .standard .object]) :
      ∀ b ∈ lineAmong ancestries (.declared index), ∀ c ∈ lineAmong ancestries b,
        c ∈ lineAmong ancestries (.declared index) := by
    intro b within c above
    simp only [line, List.mem_cons, List.not_mem_nil, or_false] at within
    rcases within with rfl | rfl
    · exact above
    · obtain rfl : c = .standard .object := by
        simpa [lineAmong, StandardClass.lineage] using above
      simp [line]
  cases a with
  | standard s => exact s.closed_lineage
  | declared index =>
    induction index using Nat.strongRecOn with
    | ind index ih =>
      cases found : ancestries[index]? with
      | none => exact ofNone index (by simp [lineAmong, found])
      | some a =>
        have before := agree.before index a found
        have line : lineAmong ancestries (.declared index) =
            linearize (.declared index) a.bases (lineAmong ancestries) := by
          rw [← placed index a found, ← linearized index a found before, placed index a found]
          simp [lineAmong, found]
        by_cases bases : a.bases = []
        · exact ofNone index (by rw [line, bases]; rfl)
        have mergeable := agree.mergeable a (Array.mem_of_getElem? found)
        intro b within c above
        rw [line, mem_linearize_iff mergeable bases] at within
        rcases within with rfl | ⟨base, isBase, within⟩
        · exact above
        · rw [line, mem_linearize_iff mergeable bases]
          refine .inr ⟨base, isBase, .inr ?_⟩
          rcases within with rfl | within
          · exact above
          · cases base with
            | standard s => exact s.closed_lineage b within c above
            | declared earlier => exact ih earlier (before _ isBase) b within c above

end Lines

/-! ## Programs -/

section Tables

variable {β γ : Type}

/-- What a class inherits from. -/
def ClassInfo.ancestry (c : ClassInfo β) : Ancestry :=
  ⟨c.name.id, c.bases, c.lineage⟩

/-- What the classes of a table inherit from. -/
def ClassTable.ancestries (table : ClassTable β) : Array Ancestry :=
  table.classes.map (·.ancestry)

theorem ClassTable.ancestries_map (table : ClassTable β) (f : β → γ) :
    (table.map f).ancestries = table.ancestries := by
  simp [ancestries, map, ClassInfo.ancestry, ClassInfo.map, Function.comp_def]

theorem ClassTable.ancestries_changed (table : ClassTable β)
    (changes : List (ClassId × ClassChange)) :
    (table.changed changes).ancestries = table.ancestries := by
  induction changes generalizing table with
  | nil => rfl
  | cons entry rest ih =>
    obtain ⟨c, change⟩ := entry
    cases c with
    | standard => exact ih table
    | declared index =>
      refine (ih ⟨_⟩).trans (Array.ext_getElem? fun place => ?_)
      simp only [ancestries, Array.getElem?_map, Array.getElem?_modify]
      split
      · cases table.classes[place]? with
        | none => rfl
        | some c => cases change <;> rfl
      · rfl

theorem ClassTable.lineage_info [Inhabited β] (table : ClassTable β) (c : ClassId) :
    (table.info c).lineage = lineAmong table.ancestries c := by
  cases c with
  | standard => rfl
  | declared index =>
    rw [info, lineAmong, ancestries, Array.getElem?_map]
    cases table.classes[index]? <;> rfl

end Tables

/-- Whatever its kind, a class inherits from what its declaration names. -/
theorem EvaluatedClass.ancestry_complete (e : EvaluatedClass) (heritage : Heritage) :
    (e.complete heritage).ancestry =
      ⟨e.declaration.name.id, heritage.bases, heritage.lineage⟩ := by
  rw [complete]
  cases e.declaration.kind with
  | plain =>
    dsimp only
    split
    · rfl
    · split <;> rfl
  | _ => rfl

namespace Blueprint

variable {blueprint : Blueprint} {w w' : World} {declarations : List ClassDeclaration}

/-- The line of a declared class is merged from the lines of its bases at the time. -/
theorem lineage_heritage (blueprint : Blueprint) (d : ClassDeclaration) :
    (d.heritage blueprint).lineage =
      linearize d.name.id (d.allBases blueprint) (lineAmong blueprint.ancestries) := by
  have lines : (fun c => (blueprint.info c).lineage) = lineAmong blueprint.ancestries :=
    funext blueprint.lineage_info
  rw [Heritage.lineage, ClassDeclaration.heritage, lines]
  cases d.allBases blueprint <;> rfl

theorem linearized_ancestries [Packages] (ended : (declareAll declarations).Ends w blueprint w') :
    Linearized blueprint.ancestries := by
  refine declareAll_induction ended (motive := fun earlier => Linearized earlier.ancestries)
    (by simp [Linearized, ClassTable.ancestries]) (fun earlier changes linearized => ?_)
    fun earlier e _ _ linearized => ?_
  · rwa [earlier.ancestries_changed]
  · have pushed : (earlier.push (e.complete (e.declaration.heritage earlier))).ancestries =
        earlier.ancestries.push (e.complete (e.declaration.heritage earlier)).ancestry :=
      Array.map_push
    rw [pushed, e.ancestry_complete]
    exact linearized.push (earlier.lineage_heritage e.declaration)

theorem placed_ancestries [Packages] (placed : ∀ (index : Nat) (d : ClassDeclaration),
      declarations[index]? = some d → d.name.id = .declared index)
    (ended : (declareAll declarations).Ends w blueprint w') : Placed blueprint.ancestries := by
  intro index a found
  obtain ⟨c, isAt, rfl⟩ := Option.map_eq_some_iff.mp (Array.getElem?_map .. ▸ found)
  have isNamed := congrArg (·[index]?) (names_of_foldlM_declare ended)
  simp only [Array.getElem?_map, isAt] at isNamed
  obtain ⟨d, isDeclared, sameName⟩ := Option.map_eq_some_iff.mp (by simpa using isNamed.symm)
  exact (congrArg ClassName.id sameName.symm).trans (placed index d isDeclared)

/-- In a program whose classes come behind their bases, which agree on one line, the
ancestors of ancestors are ancestors, whatever runs have made of the classes. -/
theorem linesClosed_runnable [Packages] (placed : ∀ (index : Nat) (d : ClassDeclaration),
      declarations[index]? = some d → d.name.id = .declared index)
    (ended : (declareAll declarations).Ends w blueprint w')
    (agree : BasesAgree blueprint.ancestries) (changes : List (ClassId × ClassChange)) :
    (blueprint.runnable.changed changes).LinesClosed := by
  have same : (blueprint.runnable.changed changes).ancestries = blueprint.ancestries := by
    obtain ⟨f, isMap⟩ := blueprint.exists_map_eq_runnable
    rw [ClassTable.ancestries_changed, isMap, ClassTable.ancestries_map]
  intro a
  simp only [ClassTable.lineage_info, same]
  exact (linearized_ancestries ended).closed (placed_ancestries placed ended) agree a

end Blueprint

end ObjectMapping
