import ObjectMapping.Mapping.Property
import ObjectMapping.Package.Runtime
import ObjectMapping.Proofs.Class.PlainInstances

/-!
# Reading back what was written

A target property stores a value under its name as it stands. A source property
takes the same name for a path and reads it part by part (`Text.attributePath`). The
two agree on names without dots, and only on those: no part of a path has a dot
(`Text.not_mem_of_mem_attributePath`), so that what is stored under a name with dots is
read by no source property that reads an attribute.

`written_attribute_reads_back` is the account of it for an instance of a plain class.
It also says which readings a write leaves alone: all whose path does not come by the
attribute that was written (`ReadsAlong`).
-/

namespace ObjectMapping

namespace Text

theorem splitDots_ne_nil (text : List Char) : splitDots text ≠ [] := by
  cases text with
  | nil => simp [splitDots]
  | cons c rest =>
    rw [splitDots]
    split
    · simp
    · split <;> simp

/-- The parts between dots have none. -/
theorem not_mem_of_mem_splitDots {text part : List Char} (mem : part ∈ splitDots text) :
    '.' ∉ part := by
  induction text generalizing part with
  | nil =>
    simp only [splitDots, List.mem_singleton] at mem
    simp [mem]
  | cons c rest ih =>
    rw [splitDots] at mem
    split at mem
    · next empty => exact absurd empty (splitDots_ne_nil rest)
    · next first parts split =>
      rw [split] at ih
      split at mem
      · rcases List.mem_cons.mp mem with rfl | mem
        · exact List.not_mem_nil
        · exact ih mem
      · next notDot =>
        rcases List.mem_cons.mp mem with rfl | mem
        · simp only [List.mem_cons, not_or]
          exact ⟨Ne.symm notDot, ih List.mem_cons_self⟩
        · exact ih (List.mem_cons_of_mem _ mem)

theorem splitDots_of_not_mem {text : List Char} (dotless : '.' ∉ text) :
    splitDots text = [text] := by
  induction text with
  | nil => rfl
  | cons c rest ih =>
    simp only [List.mem_cons, not_or] at dotless
    rw [splitDots, ih dotless.2]
    simp [Ne.symm dotless.1]

/-- No part of a path has a dot. -/
theorem not_mem_of_mem_attributePath {name part : String} (mem : part ∈ attributePath name) :
    '.' ∉ part.toList := by
  obtain ⟨chars, memChars, rfl⟩ := List.mem_map.mp mem
  rw [String.toList_ofList]
  exact not_mem_of_mem_splitDots memChars

/-- A name without dots is a path of one. -/
theorem attributePath_of_not_mem {name : String} (dotless : '.' ∉ name.toList) :
    attributePath name = [name] := by
  rw [attributePath, splitDots_of_not_mem dotless]
  simp

end Text

/-- The reading of a value along a path, each part without an effect. Of the attributes
that are read off one object, the names are listed; a value that is another one reads
the same whatever becomes of that object. -/
inductive ReadsAlong [PackageReading] (classes : ClassTable Code) (w : World) (address : Nat) :
    Value → List String → List String → Value → Prop where
  | done (v : Value) : ReadsAlong classes w address v [] [] v
  | own {name next path names last}
      (step : (classes.readAttribute (.object address) name).Ends w next w)
      (more : ReadsAlong classes w address next path names last) :
      ReadsAlong classes w address (.object address) (name :: path) (name :: names) last
  | other {v name next path names last} (apart : v ≠ .object address)
      (step : ∀ w', w.Keeps [address] w' → (classes.readAttribute v name).Ends w' next w')
      (more : ReadsAlong classes w address next path names last) :
      ReadsAlong classes w address v (name :: path) names last

namespace ReadsAlong

variable {classes : ClassTable Code} {w w' : World} {address : Nat} {v last : Value}
  {path names : List String}

/-- The names that are read off the object are parts of the path. -/
theorem names_subset [PackageReading] (along : ReadsAlong classes w address v path names last) :
    names ⊆ path := by
  induction along with
  | done => exact List.Subset.refl _
  | own _ _ ih => exact List.cons_subset_cons _ ih
  | other _ _ _ ih => exact List.Subset.trans ih (List.subset_cons_self _ _)

/-- A world that keeps all other objects, and in which the object reads the same under
the names, gives the path the same end. -/
theorem readPath_ends [PackageReading] (along : ReadsAlong classes w address v path names last)
    (kept : w.Keeps [address] w')
    (same : ∀ name ∈ names, ∀ next,
      (classes.readAttribute (.object address) name).Ends w next w →
        (classes.readAttribute (.object address) name).Ends w' next w') :
    (classes.readPath v path).Ends w' last w' := by
  induction along with
  | done v => exact Run.ends_pure v w'
  | own step _ ih =>
    rw [ClassTable.readPath, List.foldlM_cons]
    apply Run.Ends.bind (same _ List.mem_cons_self _ step)
    exact ih fun name mem => same name (List.mem_cons_of_mem _ mem)
  | other _ step _ ih =>
    rw [ClassTable.readPath, List.foldlM_cons]
    exact Run.Ends.bind (step w' kept) (ih same)

end ReadsAlong

/-- What source properties read off an object after a value was written under a name,
compared with before. -/
structure ReadsBack [PackageReading] (classes : ClassTable Code) (address : Nat) (written : String)
    (v : Value) (before after : World) : Prop where
  /-- A name without dots reads as what was written. -/
  same : '.' ∉ written.toList → ∀ identity owner declared,
    ((SourceProperty.ofAttribute classes identity owner written declared).reader
      (.object address)).Ends after v after
  /-- Another name without dots reads, or fails to read, as it did. -/
  others : ∀ name, '.' ∉ name.toList → name ≠ written → name ≠ storeAttribute →
    ∀ identity owner declared,
      (((SourceProperty.ofAttribute classes identity owner name declared).reader
        (.object address)).run.run after).1 =
      (((SourceProperty.ofAttribute classes identity owner name declared).reader
        (.object address)).run.run before).1
  /-- A path reads as it did unless it comes by the attribute that was written. -/
  apart : ∀ name names last,
    ReadsAlong classes before address (.object address) (Text.attributePath name) names last →
      written ∉ names → storeAttribute ∉ names → ∀ identity owner declared,
        ((SourceProperty.ofAttribute classes identity owner name declared).reader
          (.object address)).Ends after last after
  /-- No path comes by a name with dots, not even the path of that name. -/
  dotted : '.' ∈ written.toList → ∀ name names last,
    ReadsAlong classes before address (.object address) (Text.attributePath name) names last →
      written ∉ names

section Writing

variable {classes : ClassTable Code} {w w' : World} {address : Nat} {r r' : Instance}
  {written : String} {v : Value}

/-- Reading an attribute looks at the object as the world has it. -/
theorem readAttribute_run_eq [PackageReading] (found : w.heap.get? address = some (.record r))
    (name : String) : (classes.readAttribute (.object address) name).run.run w =
      ((classes.changed w.changes).readInstance address r name).run.run w := by
  rw [ClassTable.readAttribute, (classes.now_ends w).run_bind,
    (Run.ends_object? address w).run_bind, found]

theorem reader_run_of_not_mem [PackageReading] {name : String} (dotless : '.' ∉ name.toList)
    (identity : Nat) (owner declared : TypeExpr) (target : Value) :
    (SourceProperty.ofAttribute classes identity owner name declared).reader target =
      classes.readAttribute target name := by
  show classes.readPath target (Text.attributePath name) = _
  rw [Text.attributePath_of_not_mem dotless, ClassTable.readPath, List.foldlM_cons]
  simp

/-- Two worlds with one object in it, which differs in one attribute. -/
theorem readsBack_of_differsAt [Packages] (plain : (classes.changed w.changes).IsPlain r.classId)
    (ordinary : ClassTable.tellsItself written = false)
    (found : w.heap.get? address = some (.record r))
    (found' : w'.heap.get? address = some (.record r')) (differs : r.DiffersAt written v r')
    (kept : w.Keeps [address] w') (sameSize : w'.heap.next = w.heap.next) :
    ReadsBack classes address written v w w' := by
  -- Under another name the two objects are read by one and the same run.
  have sameRun : ∀ name, name ≠ written → name ≠ storeAttribute →
      (classes.readAttribute (.object address) name).run.run w' =
        ((classes.changed w.changes).readInstance address r name).run.run w' := by
    intro name apart notStore
    rw [readAttribute_run_eq found', kept.changes,
      plain.readInstance_of_differsAt rfl differs apart notStore]
  have nowhere := fun name => plain.readInstance_looksNowhere rfl address name
  constructor
  · intro dotless identity owner declared
    rw [reader_run_of_not_mem dotless, Run.Ends, readAttribute_run_eq found', kept.changes,
      plain.readInstance_of_stored differs.sameClass differs.changed ordinary]
    rfl
  · intro name dotless apart notStore identity owner declared
    rw [reader_run_of_not_mem dotless, sameRun name apart notStore, readAttribute_run_eq found]
    exact (nowhere name).outcome_eq sameSize
  · intro name names last along apart notStore identity owner declared
    refine along.readPath_ends kept fun name mem next ended => ?_
    rw [Run.Ends, readAttribute_run_eq found] at ended
    rw [Run.Ends, sameRun name (fun same => apart (same ▸ mem)) (fun same => notStore (same ▸ mem))]
    exact (nowhere name).ends_anywhere ended w'
  · intro dotted name names last along mem
    exact Text.not_mem_of_mem_attributePath (along.names_subset mem) dotted

/-- The stage of a target property that is stored in the target writes a value under its
name and nothing else. The value is read back under a name without dots. Other names
keep what they read, as far as their paths do not come by the written attribute. -/
theorem written_attribute_reads_back [Packages] {before : World} {reader : Reader} {source : Value}
    (identity : Nat) (owner declared : TypeExpr)
    (read : (reader source).Ends before v w)
    (found : w.heap.get? address = some (.record r))
    (plain : (classes.changed w.changes).IsPlain r.classId)
    (ordinary : ClassTable.tellsItself written = false) :
    ∃ after,
      ((TargetProperty.declare identity owner written declared .assignment).setter classes reader
        (.object address) source).Ends before (.object address) after ∧
      w.Keeps [address] after ∧
      (∃ r', after.heap.get? address = some (.record r') ∧ r.DiffersAt written v r') ∧
      ReadsBack classes address written v w after := by
  let r' : Instance := { r with attributes := Entries.put r.attributes written v }
  have stored := plain.writeAttribute_ends v ordinary found
  have found' : (w.heap.set address (.record r')).get? address = some (.record r') :=
    Heap.get?_set_self (.record r') (w.heap.lt_next_of_get?_eq_some found)
  have kept := World.Keeps.written w address (.record r')
  have differs : r.DiffersAt written v r' := r.differsAt_put written v
  refine ⟨_, ?_, kept, ⟨r', found', differs⟩, ?_⟩
  · exact read.bind (stored.bind (Run.ends_pure _ _))
  · exact readsBack_of_differsAt plain ordinary found found' differs kept (Heap.next_set _ _ _)

end Writing

open scoped RuntimePackages

/-- A world with an object of a class without declarations, in which nothing is stored. -/
def blankWorld : World where
  heap := ⟨#[.record { classId := .declared 0 }]⟩

/-- A title is written on the object, and read back. -/
theorem written_attribute_reads_back_title :
    (pure (.text "Blue") : Run Value).Ends blankWorld (.text "Blue") blankWorld ∧
      blankWorld.heap.get? 0 = some (.record { classId := .declared 0 }) ∧
      (({} : ClassTable Code).changed blankWorld.changes).IsPlain (.declared 0) ∧
      ClassTable.tellsItself "title" = false ∧
      ∃ after,
        ((TargetProperty.declare 0 .any "title" .any .assignment).setter {} pure
          (.object 0) (.text "Blue")).Ends blankWorld (.object 0) after ∧
        ((SourceProperty.ofAttribute {} 0 .any "title" .any).reader (.object 0)).Ends after
          (.text "Blue") after := by
  let reader : Reader := pure
  have read : (reader (.text "Blue")).Ends blankWorld (.text "Blue") blankWorld := rfl
  have found : blankWorld.heap.get? 0 = some (.record { classId := .declared 0 }) := rfl
  have plain := ClassTable.isPlain_of_undeclared 0
  have ordinary : ClassTable.tellsItself "title" = false := by decide
  refine ⟨read, found, plain, ordinary, ?_⟩
  obtain ⟨after, ended, -, -, readsBack⟩ :=
    written_attribute_reads_back 0 .any .any read found plain ordinary
  exact ⟨after, ended, readsBack.same (by decide) 0 .any .any⟩

/-- A value that is written under a name with a dot is stored under that name, and
reading the name looks for another attribute. -/
theorem not_read_back_dotted : ∃ after,
    ((TargetProperty.declare 0 .any "a.b" .any .assignment).setter {} pure
      (.object 0) (.text "Blue")).Ends blankWorld (.object 0) after ∧
    after.heap.get? 0 = some (.record {
      classId := .declared 0, attributes := [("a.b", .text "Blue")] }) ∧
    ((SourceProperty.ofAttribute {} 0 .any "a.b" .any).reader (.object 0)).run.run after =
      (.error (.noAttribute "a"), after) := by
  have path : Text.attributePath "a.b" = ["a", "b"] := by decide
  refine ⟨_, rfl, rfl, ?_⟩
  show (ClassTable.readPath {} (.object 0) (Text.attributePath "a.b")).run.run _ = _
  rw [path]
  rfl

end ObjectMapping
