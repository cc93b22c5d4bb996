import Mathlib.Data.List.Induction
import ObjectMapping.Proofs.Class.Remaking
import ObjectMapping.Proofs.Discovery.Modes
import ObjectMapping.Proofs.Mapping.Sparing
import ObjectMapping.Proofs.Value.Mirroring

/-!
# Replacing one by one and all at once

The setters of a frozen record replace it once for each matched property, so that its
constructor runs each time. All matched properties can as well be replaced at once
(`replaceMatched`). The two ways are compared as runs that begin in one world. What they
end with is in different worlds, so that being alike is a matter of what objects hold.

What carries the comparison is which value each parameter of the constructor is due at
some point (`IsDue`): the one that was read for it, or else the one that the target
shows. A record that the setters have come to shows what is due (`HasSet`), and the
arguments by which it is replaced are what is due next.
-/

namespace ObjectMapping

/-- Reads the values for all matched properties and replaces them in one go. -/
def replaceMatched [Packages] (classes : ClassTable Code) (pairs : List PropertyPair)
    (target source : Value) : Run Value := do
  let changes ← pairs.mapM fun pair => do
    return (pair.target.name, ← pair.source.reader source)
  classes.replaceFields target changes

/-- Whenever it is run, a run writes no object that there was, and if it succeeds once it
does so again, with a value that is alike. -/
structure Run.IsSteady (base : World) (run : Run Value) : Prop where
  keeps {w w' : World} {v : Value} : base.Keeps [] w → run.Ends w v w' → w.Keeps [] w'
  again {w₁ w₁' w₂ : World} {v : Value} : base.Keeps [] w₁ → base.Keeps [] w₂ →
    run.Ends w₁ v w₁' → ∃ v' w₂', run.Ends w₂ v' w₂' ∧ w₁'.heap.Alike w₂'.heap v v'

variable {base w w' : World} {source : Value}

/-- Pure runs are steady. -/
theorem Run.IsPure.isSteady {run : Run Value} (isPure : run.IsPure base) : run.IsSteady base where
  keeps := fun kept ended => isPure.keeps kept ended
  again := by
    intro w₁ w₁' w₂ v kept kept' ended
    obtain ⟨v', w₂', related, ended', twins, alike⟩ := isPure kept kept' ended
    exact ⟨v', w₂', ended', related, twins.isMatched, alike⟩

/-- The value was read for the pair some time since the base. -/
def PropertyPair.WasRead (base : World) (source : Value) (pair : PropertyPair) (w : World)
    (v : Value) : Prop :=
  ∃ u u', base.Keeps [] u ∧ (pair.source.reader source).Ends u v u' ∧ u'.Keeps [] w

namespace PropertyPair.WasRead

variable {pair : PropertyPair} {v v' : Value}

theorem later (wasRead : pair.WasRead base source w v) (kept : w.Keeps [] w') :
    pair.WasRead base source w' v := by
  obtain ⟨u, u', since, ended, still⟩ := wasRead
  exact ⟨u, u', since, ended, still.trans kept⟩

/-- What is read steadily for a pair is alike. -/
theorem alike (steady : (pair.source.reader source).IsSteady base)
    (wasRead : pair.WasRead base source w v) (wasRead' : pair.WasRead base source w' v') :
    w.heap.Alike w'.heap v v' := by
  obtain ⟨u, u₁, since, ended, still⟩ := wasRead
  obtain ⟨u', u₁', since', ended', still'⟩ := wasRead'
  obtain ⟨v'', u₁'', again, alike⟩ := steady.again since since' ended
  obtain ⟨rfl, rfl⟩ := again.unique ended'
  exact alike.later still still'

end PropertyPair.WasRead

/-- Reading values for pairs leaves all objects be and finds a value for each. -/
theorem reads_ends {pairs : List PropertyPair} (distinct : (pairs.map (·.target.name)).Nodup)
    (steady : ∀ pair ∈ pairs, (pair.source.reader source).IsSteady base)
    (kept : base.Keeps [] w) {changes : Entries String Value}
    (ended : Run.Ends (pairs.mapM fun pair => do
      return (pair.target.name, ← pair.source.reader source)) w changes w') :
    w.Keeps [] w' ∧ Entries.keys changes = pairs.map (·.target.name) ∧
      ∀ pair ∈ pairs, ∃ v, Entries.get? changes pair.target.name = some v ∧
        pair.WasRead base source w' v := by
  induction pairs generalizing w changes with
  | nil =>
    cases ended
    exact ⟨.refl [] _, rfl, by simp⟩
  | cons pair rest ih =>
    obtain ⟨notLater, distinctRest⟩ := List.nodup_cons.mp distinct
    obtain ⟨steadyFirst, steadyRest⟩ := List.forall_mem_cons.mp steady
    rw [List.mapM_cons] at ended
    obtain ⟨entry, u, first, ended⟩ := ended.exists_of_bind
    obtain ⟨v, u', isRead, isEntry⟩ := first.exists_of_bind
    cases isEntry
    obtain ⟨others, u₁, rest', isResult⟩ := ended.exists_of_bind
    cases isResult
    have keeps := steadyFirst.keeps kept isRead
    obtain ⟨keepsRest, names, values⟩ := ih distinctRest steadyRest (kept.trans keeps) rest'
    refine ⟨keeps.trans keepsRest, ?_, ?_⟩
    · simpa [Entries.keys] using names
    · intro other mem
      rcases List.mem_cons.mp mem with rfl | later
      · exact ⟨v, by simp [Entries.get?], _, _, kept, isRead, keepsRest⟩
      · obtain ⟨x, isGiven, wasRead⟩ := values other later
        have apart : pair.target.name ≠ other.target.name := by
          intro same
          exact notLater (List.mem_map.mpr ⟨other, later, same.symm⟩)
        exact ⟨x, by simpa [Entries.get?, apart] using isGiven, wasRead⟩

/-! ## The record that is replaced -/

/-- A frozen record that can be made again from what it shows: a generated constructor
makes instances of its class, the code behind it settles them by themselves, and all that
objects and the class hold has been made. -/
structure ClassTable.Remakes [Packages] (classes : ClassTable Code) (base : World) (own : Nat)
    (r : Instance) (layout : RecordLayout) : Prop where
  found : base.heap.get? own = some (.record r)
  isRecord : classes.recordLayout? r.classId = some layout
  generates : (classes.changed base.changes).Generates r.classId layout
  settles : layout.hasAfterInit = true →
    (classes.changed base.changes).SettlesAlone base r.classId layout
  closed : base.heap.Closed
  shared : ∀ name owner v,
    (classes.changed base.changes).owned? r.classId name = some (owner, .constant v) →
    v.Within base.heap.next
  defaults : ClassTable.DefaultsWithin layout base.heap.next

section Setting

variable {creating discovering : ClassTable Code} {own : Nat} {r : Instance}
  {layout : RecordLayout}

/-- Parameters are read plainly, at any time since the base. -/
theorem ClassTable.Remakes.readsPlainly [Packages] (remakes : discovering.Remakes base own r layout)
    (kept : base.Keeps [] w) {f : RecordField} (mem : f ∈ layout.fields)
    (isParameter : f.isParameter = true) :
    (discovering.changed w.changes).ReadsPlainly r.classId f.name := by
  have notInitOnly := remakes.generates.noInitOnly f mem
  rw [discovering.changed_eq_of_keeps kept]
  exact remakes.generates.plain f mem (f.isStored_of_isParameter notInitOnly isParameter)

/-- What a record shows has been made. -/
theorem ClassTable.shown_within {classes : ClassTable Code} (closed : base.heap.Closed)
    (found : base.heap.get? own = some (.record r)) {name : String}
    (shared : ∀ owner v, classes.owned? r.classId name = some (owner, .constant v) →
      v.Within base.heap.next)
    {v : Value} (shown : classes.shown r name = .ok v) : v.Within base.heap.next := by
  have holds := closed own _ found
  rw [ClassTable.shown] at shown
  split at shown
  · next stored =>
    cases shown
    refine holds v (List.mem_append_left _ ?_)
    exact List.mem_map_of_mem (Entries.mem_of_get?_eq_some stored)
  · next owner _ _ owned =>
    cases shown
    exact shared owner v owned
  · cases shown
    exact fun address mem => by simp [Value.addresses] at mem
  · cases shown
    exact fun address mem => by simp [Value.addresses] at mem
  · split at shown
    · next stored =>
      cases shown
      refine holds v (List.mem_append_right _ ?_)
      exact List.mem_map_of_mem (Entries.mem_of_get?_eq_some stored)
    · cases shown

/-- A property that is read plainly off an object is read purely. -/
theorem SourceProperty.ofAttribute_isPure [Packages] {classes : ClassTable Code} {name : String}
    (closed : base.heap.Closed) (found : base.heap.get? own = some (.record r))
    (plain : (classes.changed base.changes).ReadsPlainly r.classId name)
    (shared : ∀ owner v,
      (classes.changed base.changes).owned? r.classId name = some (owner, .constant v) →
      v.Within base.heap.next)
    (isOneName : Text.attributePath name = [name]) (identity : Nat) (owner declared : TypeExpr) :
    ((ofAttribute classes identity owner name declared).reader (.object own)).IsPure base := by
  refine Run.isPure_of_run closed (fun w kept => ?_) fun v shown =>
    ClassTable.shown_within closed found shared shown
  have table := classes.changed_eq_of_keeps kept
  have shows := ClassTable.readAttribute_run (by rwa [table]) (kept.found found)
  have path : (ofAttribute classes identity owner name declared).reader (.object own) =
      classes.readAttribute (.object own) name := by
    show ClassTable.readPath classes (.object own) (Text.attributePath name) = _
    rw [isOneName, ClassTable.readPath, List.foldlM_cons]
    exact bind_pure _
  rw [path, shows, table]

/-- What a parameter is to get once the pairs are set: what was read for it, or else what
the target shows. -/
def IsDue (discovering : ClassTable Code) (base : World) (source : Value) (r : Instance)
    (pairs : List PropertyPair) (w : World) (name : String) (v : Value) : Prop :=
  (∃ pair ∈ pairs, pair.target.name = name ∧ pair.WasRead base source w v) ∨
    name ∉ pairs.map (·.target.name) ∧ (discovering.changed base.changes).shown r name = .ok v

namespace IsDue

variable {pairs : List PropertyPair} {name : String} {v v' : Value}

theorem later (isDue : IsDue discovering base source r pairs w name v) (kept : w.Keeps [] w') :
    IsDue discovering base source r pairs w' name v := by
  rcases isDue with ⟨pair, mem, sameName, wasRead⟩ | unmatched
  · exact .inl ⟨pair, mem, sameName, wasRead.later kept⟩
  · exact .inr unmatched

/-- One more pair is of no account for other names. -/
theorem append (isDue : IsDue discovering base source r pairs w name v) {pair : PropertyPair}
    (other : name ≠ pair.target.name) :
    IsDue discovering base source r (pairs ++ [pair]) w name v := by
  rcases isDue with ⟨pair', mem, sameName, wasRead⟩ | ⟨unmatched, shown⟩
  · exact .inl ⟨pair', List.mem_append_left _ mem, sameName, wasRead⟩
  · refine .inr ⟨?_, shown⟩
    simpa [other] using unmatched

/-- What a parameter is to get is alike wherever it is asked for. -/
theorem alike [Packages] (remakes : discovering.Remakes base own r layout)
    (distinct : (pairs.map (·.target.name)).Nodup)
    (steady : ∀ pair ∈ pairs, (pair.source.reader source).IsSteady base)
    (kept : base.Keeps [] w) (kept' : base.Keeps [] w')
    (isDue : IsDue discovering base source r pairs w name v)
    (isDue' : IsDue discovering base source r pairs w' name v') : w.heap.Alike w'.heap v v' := by
  rcases isDue with ⟨pair, mem, rfl, wasRead⟩ | ⟨unmatched, shown⟩
  · rcases isDue' with ⟨pair', mem', sameName, wasRead'⟩ | ⟨unmatched, -⟩
    · obtain rfl : pair' = pair := List.inj_on_of_nodup_map distinct mem' mem sameName
      exact wasRead.alike (steady pair' mem) wasRead'
    · exact absurd (List.mem_map_of_mem mem) unmatched
  · rcases isDue' with ⟨pair, mem, rfl, -⟩ | ⟨-, shown'⟩
    · exact absurd (List.mem_map_of_mem mem) unmatched
    · obtain rfl : v = v' := Except.ok.inj (shown.symm.trans shown')
      have within := ClassTable.shown_within remakes.closed remakes.found
        (remakes.shared name) shown
      exact remakes.closed.alike_self kept kept' within

end IsDue

/-- The arguments give each parameter what it is to get. -/
structure GivesDue (discovering : ClassTable Code) (base : World) (source : Value)
    (r : Instance) (layout : RecordLayout) (pairs : List PropertyPair) (w : World)
    (named : Entries String Value) : Prop where
  all : layout.IsGivenAll named
  due : ∀ f ∈ layout.fields, f.isParameter = true → ∀ v, Entries.get? named f.name = some v →
    IsDue discovering base source r pairs w f.name v

/-- Arguments that are for parameters only give what is due if each parameter finds it. -/
theorem GivesDue.of_lookup {pairs : List PropertyPair} {named : Entries String Value}
    (lookup : ∀ f ∈ layout.fields, f.isParameter = true →
      ∃ v, Entries.get? named f.name = some v ∧
        IsDue discovering base source r pairs w f.name v)
    (only : ∀ entry ∈ named, ∃ f ∈ layout.fields, f.isParameter = true ∧ f.name = entry.1) :
    GivesDue discovering base source r layout pairs w named := by
  refine ⟨⟨?_, only⟩, ?_⟩
  · intro f mem isParameter
    obtain ⟨v, isGiven, -⟩ := lookup f mem isParameter
    exact ⟨v, isGiven⟩
  · intro f mem isParameter v isGiven
    obtain ⟨v', isGiven', isDue⟩ := lookup f mem isParameter
    obtain rfl : v' = v := Option.some.inj (isGiven'.symm.trans isGiven)
    exact isDue

/-- Setters have come to a record of the same class that shows for each parameter what it
is to get, if there is any such value. -/
structure HasSet (discovering : ClassTable Code) (base : World) (source : Value) (r : Instance)
    (layout : RecordLayout) (done : List PropertyPair) (w : World) (own : Nat)
    (current : Instance) : Prop where
  kept : base.Keeps [] w
  found : w.heap.get? own = some (.record current)
  sameClass : current.classId = r.classId
  shows : ∀ f ∈ layout.fields, f.isParameter = true →
    (f.name ∈ done.map (·.target.name) ∨
      ∃ v, (discovering.changed base.changes).shown r f.name = .ok v) →
    ∃ v, (discovering.changed base.changes).shown current f.name = .ok v ∧
      IsDue discovering base source r done w f.name v

/-- Before the first setter, the target shows what it shows. -/
theorem hasSet_nil [Packages] (remakes : discovering.Remakes base own r layout) :
    HasSet discovering base source r layout [] base own r where
  kept := .refl [] base
  found := remakes.found
  sameClass := rfl
  shows := by
    intro f mem isParameter known
    rcases known with impossible | ⟨v, shown⟩
    · simp at impossible
    · exact ⟨v, shown, .inr ⟨by simp, shown⟩⟩

/-- An instance that was made with what is due shows it. -/
theorem GivesDue.hasSet {pairs : List PropertyPair} {named : Entries String Value} {u : World}
    (gives : GivesDue discovering base source r layout pairs u named) (since : base.Keeps [] u)
    (kept : u.Keeps [] w) (isMade : ClassTable.IsMade r.classId layout named own w) :
    ∃ current, HasSet discovering base source r layout pairs w own current := by
  obtain ⟨current, found, isClass, same⟩ := isMade
  refine ⟨current, since.trans kept, found, isClass, fun f mem isParameter _ => ?_⟩
  obtain ⟨v, isGiven⟩ := gives.all.each f mem isParameter
  refine ⟨v, ?_, (gives.due f mem isParameter v isGiven).later kept⟩
  exact ClassTable.shown_of_get? ((same f mem isParameter).trans isGiven)

/-! ## All at once -/

/-- To replace all matched values at once is to read them and to call the class with what
is due. -/
theorem replaceMatched_ends [Packages] (remakes : discovering.Remakes base own r layout)
    {pairs : List PropertyPair} (distinct : (pairs.map (·.target.name)).Nodup)
    (steady : ∀ pair ∈ pairs, (pair.source.reader source).IsSteady base) {result : Value}
    (ended : (replaceMatched discovering pairs (.object own) source).Ends base result w) :
    ∃ named u, base.Keeps [] u ∧
      (discovering.instantiate r.classId { named := named }).Ends u result w ∧
      GivesDue discovering base source r layout pairs u named ∧
      ∀ pair ∈ pairs, ∃ f ∈ layout.fields, f.isParameter = true ∧ f.name = pair.target.name := by
  obtain ⟨changes, u, areRead, ended⟩ := ended.exists_of_bind
  obtain ⟨kept, names, wereRead⟩ := reads_ends distinct steady (.refl [] base) areRead
  have current := discovering.changed_eq_of_keeps kept
  have generates := remakes.generates
  have plain : ∀ f ∈ layout.fields, f.isParameter = true →
      (discovering.changed u.changes).ReadsPlainly r.classId f.name :=
    fun f mem isParameter => remakes.readsPlainly kept mem isParameter
  rw [Run.Ends, ClassTable.replaceFields_run (kept.found remakes.found) remakes.isRecord] at ended
  obtain ⟨others, u', areKept, called⟩ := Run.Ends.exists_of_bind ended
  obtain ⟨rfl, keepsShown⟩ := ClassTable.KeepsShown.of_ends (kept.found remakes.found)
    generates.noInitOnly plain generates.distinct areKept
  rw [current, names] at keepsShown
  have areParameters := discovering.exists_parameter_of_instantiate_ends
    (by rw [current]; exact generates) called
  have lookup (f : RecordField) (mem : f ∈ layout.fields) (isParameter : f.isParameter = true) :
      ∃ v, Entries.get? (changes ++ others) f.name = some v ∧
        IsDue discovering base source r pairs u' f.name v := by
    rw [Entries.get?_append]
    by_cases matched : f.name ∈ pairs.map (·.target.name)
    · obtain ⟨pair, isPair, sameName⟩ := List.mem_map.mp matched
      obtain ⟨v, isGiven, wasRead⟩ := wereRead pair isPair
      rw [← sameName, isGiven]
      exact ⟨v, rfl, .inl ⟨pair, isPair, rfl, wasRead⟩⟩
    · obtain ⟨v, shown, isKept⟩ := keepsShown.each f mem isParameter matched
      have unread : Entries.get? changes f.name = none := by
        rw [← names, ← Entries.contains_iff_mem_keys, Entries.contains] at matched
        simpa using matched
      rw [unread, isKept]
      exact ⟨v, rfl, .inr ⟨matched, shown⟩⟩
  refine ⟨changes ++ others, u', kept, called, .of_lookup lookup areParameters, fun pair mem => ?_⟩
  have isName : pair.target.name ∈ Entries.keys changes := by
    rw [names]
    exact List.mem_map_of_mem mem
  obtain ⟨entry, isEntry, sameName⟩ := List.mem_map.mp isName
  obtain ⟨f, isField, isParameter, named⟩ := areParameters entry (List.mem_append_left _ isEntry)
  exact ⟨f, isField, isParameter, named.trans sameName⟩

/-! ## One by one -/

/-- What is read next and what the record by now shows otherwise are what is due once one
more pair is set. -/
theorem HasSet.exists_kept [Packages] (remakes : discovering.Remakes base own r layout)
    {done : List PropertyPair} {pair : PropertyPair} {place : Nat} {current : Instance}
    (hasSet : HasSet discovering base source r layout done w place current)
    (isParameter : ∃ f ∈ layout.fields, f.isParameter = true ∧ f.name = pair.target.name)
    (known : ∀ f ∈ layout.fields, f.isParameter = true → f.name ≠ pair.target.name →
      f.name ∈ done.map (·.target.name) ∨
        ∃ v, (discovering.changed base.changes).shown r f.name = .ok v)
    {v : Value} (wasRead : pair.WasRead base source w v) :
    ∃ others,
      (discovering.keptArgumentsOf (.object place) [pair.target.name] layout.fields).Ends w
        others w ∧
      GivesDue discovering base source r layout (done ++ [pair]) w
        ((pair.target.name, v) :: others) := by
  have table := discovering.changed_eq_of_keeps hasSet.kept
  have generates := remakes.generates
  have plain : ∀ f ∈ layout.fields, f.isParameter = true →
      (discovering.changed w.changes).ReadsPlainly current.classId f.name := by
    intro f mem isParameter
    rw [hasSet.sameClass]
    exact remakes.readsPlainly hasSet.kept mem isParameter
  have shows (f : RecordField) (mem : f ∈ layout.fields) (isParameter : f.isParameter = true)
      (other : f.name ≠ pair.target.name) :
      ∃ v, (discovering.changed base.changes).shown current f.name = .ok v ∧
        IsDue discovering base source r (done ++ [pair]) w f.name v := by
    obtain ⟨v, shown, isDue⟩ := hasSet.shows f mem isParameter (known f mem isParameter other)
    exact ⟨v, shown, isDue.append other⟩
  obtain ⟨others, areKept, keepsShown⟩ := ClassTable.exists_keptArgumentsOf_one hasSet.found
    generates.noInitOnly plain generates.distinct isParameter fun f mem isParameter other => by
      obtain ⟨v, shown, -⟩ := shows f mem isParameter other
      exact ⟨v, by rw [table]; exact shown⟩
  rw [table] at keepsShown
  obtain ⟨each, only⟩ := keepsShown.arguments isParameter v
  refine ⟨others, areKept, .of_lookup (fun f mem isParameter => ?_) only⟩
  obtain ⟨x, isGiven, ⟨sameName, rfl⟩ | ⟨other, shown⟩⟩ := each f mem isParameter
  · exact ⟨x, isGiven, .inl ⟨pair, by simp, sameName.symm, wasRead⟩⟩
  · obtain ⟨x', shown', isDue⟩ := shows f mem isParameter other
    obtain rfl : x = x' := Except.ok.inj (shown.symm.trans shown')
    exact ⟨x, isGiven, isDue⟩

/-- If one more property can be replaced together with those that are set, its setter
succeeds, and what it makes is alike. -/
theorem HasSet.setter_again [Packages] (remakes : discovering.Remakes base own r layout)
    {done : List PropertyPair} {pair : PropertyPair}
    (replaces : pair.target.mode = .replacement discovering.replaceField)
    (distinct : ((done ++ [pair]).map (·.target.name)).Nodup)
    (steady : ∀ other ∈ done ++ [pair], (other.source.reader source).IsSteady base)
    {place : Nat} {current : Instance}
    (hasSet : HasSet discovering base source r layout done w place current) {result : Value}
    {w₁ : World}
    (ended : (replaceMatched discovering (done ++ [pair]) (.object own) source).Ends base
      result w₁) :
    ∃ place' current' w',
      (Stage.returningTarget creating (pair.setter creating) (.object place) source).Ends w
        (.object place') w' ∧
      HasSet discovering base source r layout (done ++ [pair]) w' place' current' ∧
      w₁.heap.Alike w'.heap result (.object place') := by
  obtain ⟨named, u, since, called, gives, areParameters⟩ :=
    replaceMatched_ends remakes distinct steady ended
  have mem : pair ∈ done ++ [pair] := by simp
  obtain ⟨g, isField, isParameter, sameName⟩ := areParameters pair mem
  -- The value is read once more, in the world that the setters before have left.
  obtain ⟨v₁, isGiven⟩ := gives.all.each g isField isParameter
  have wasRead : ∃ v, pair.WasRead base source u v := by
    rcases gives.due g isField isParameter v₁ isGiven with ⟨other, isPair, name, wasRead⟩ | ⟨no, -⟩
    · obtain rfl : other = pair :=
        List.inj_on_of_nodup_map distinct isPair mem (name.trans sameName)
      exact ⟨v₁, wasRead⟩
    · exact absurd (sameName ▸ List.mem_map_of_mem mem) no
  obtain ⟨_, u₀, u₁, since₀, isRead₀, -⟩ := wasRead
  obtain ⟨v, w₂, isRead, -⟩ := (steady pair mem).again since₀ hasSet.kept isRead₀
  have keeps := (steady pair mem).keeps hasSet.kept isRead
  have hasSet₂ : HasSet discovering base source r layout done w₂ place current := {
    kept := hasSet.kept.trans keeps
    found := keeps.found hasSet.found
    sameClass := hasSet.sameClass
    shows := fun f mem isParameter known => by
      obtain ⟨x, shown, isDue⟩ := hasSet.shows f mem isParameter known
      exact ⟨x, shown, isDue.later keeps⟩ }
  have known : ∀ f ∈ layout.fields, f.isParameter = true → f.name ≠ pair.target.name →
      f.name ∈ done.map (·.target.name) ∨
        ∃ x, (discovering.changed base.changes).shown r f.name = .ok x := by
    intro f mem isParameter other
    by_cases isDone : f.name ∈ done.map (·.target.name)
    · exact .inl isDone
    · obtain ⟨x, isGiven⟩ := gives.all.each f mem isParameter
      rcases gives.due f mem isParameter x isGiven with ⟨pair', isPair, name, -⟩ | ⟨-, shown⟩
      · rcases List.mem_append.mp isPair with before | isLast
        · exact absurd (name ▸ List.mem_map_of_mem before) isDone
        · rw [List.mem_singleton.mp isLast] at name
          exact absurd name.symm other
      · exact .inr ⟨x, shown⟩
  obtain ⟨others, areKept, gives'⟩ := hasSet₂.exists_kept remakes
    ⟨g, isField, isParameter, sameName⟩ known ⟨w, w₂, hasSet.kept, isRead, .refl [] w₂⟩
  -- What is due is alike in both worlds, so that the class makes instances that are alike.
  have alike : ∀ f ∈ layout.fields, f.isParameter = true → ∀ x x',
      Entries.get? named f.name = some x →
      Entries.get? ((pair.target.name, v) :: others) f.name = some x' →
      u.heap.Alike w₂.heap x x' := by
    intro f mem isParameter x x' isGiven isGiven'
    have isDue := gives.due f mem isParameter x isGiven
    have isDue' := gives'.due f mem isParameter x' isGiven'
    exact isDue.alike remakes distinct steady since hasSet₂.kept isDue'
  obtain ⟨w', called', keeps', isMade, likewise⟩ := ClassTable.instantiate_again remakes.closed
    remakes.defaults gives.all gives'.all remakes.generates remakes.settles since hasSet₂.kept
    alike called
  obtain ⟨current', hasSet'⟩ := gives'.hasSet hasSet₂.kept keeps' isMade
  refine ⟨w₂.heap.next, current', w', ?_, hasSet', likewise⟩
  have replaced : (pair.target.write creating (.object place) source v).Ends w₂
      (.object w₂.heap.next) w' := by
    rw [pair.target.write_of_replacement replaces]
    have isRecord : discovering.recordLayout? current.classId = some layout := by
      rw [hasSet.sameClass]
      exact remakes.isRecord
    rw [ClassTable.replaceField_eq, Run.Ends, ClassTable.replaceFields_run hasSet₂.found isRecord,
      hasSet.sameClass]
    exact areKept.bind called'
  have decided : (keepTarget creating (.object place) (.object w₂.heap.next)).Ends w'
      (.object w₂.heap.next) w' :=
    keepTarget_ends (keeps'.found hasSet₂.found) hasSet'.found
      (hasSet'.sameClass.trans hasSet.sameClass.symm)
  have plain : pair.target.mode.takesReader = false := by rw [replaces]; rfl
  rw [pair.setter_eq plain]
  exact isRead.bind (replaced.bind decided)

/-- If the first ones of the pairs can be replaced at once, however many they are, then all
setters succeed, and what they end with is like what replacing all at once makes. -/
theorem compose_setters_again [Packages] (remakes : discovering.Remakes base own r layout)
    {pairs : List PropertyPair}
    (replacing : ∀ pair ∈ pairs, pair.target.mode = .replacement discovering.replaceField)
    (distinct : (pairs.map (·.target.name)).Nodup)
    (steady : ∀ pair ∈ pairs, (pair.source.reader source).IsSteady base)
    (between : ∀ i, 0 < i → i ≤ pairs.length → ∃ result w₁,
      (replaceMatched discovering (pairs.take i) (.object own) source).Ends base result w₁) :
    ∃ place current w',
      (compose creating (pairs.map (·.setter creating)) (.object own) source).Ends base
        (.object place) w' ∧
      HasSet discovering base source r layout pairs w' place current ∧
      (pairs ≠ [] → ∀ result w₁,
        (replaceMatched discovering pairs (.object own) source).Ends base result w₁ →
        w₁.heap.Alike w'.heap result (.object place)) := by
  induction pairs using List.reverseRecOn with
  | nil => exact ⟨own, r, base, Run.ends_pure _ base, hasSet_nil remakes, by simp⟩
  | append_singleton done pair ih =>
    have doneBetween : ∀ i, 0 < i → i ≤ done.length → ∃ result w₁,
        (replaceMatched discovering (done.take i) (.object own) source).Ends base result w₁ := by
      intro i positive bound
      have isPrefix := between i positive (by rw [List.length_append]; omega)
      rwa [List.take_append_of_le_length bound] at isPrefix
    have doneDistinct : (done.map (·.target.name)).Nodup := by
      rw [List.map_append] at distinct
      exact (List.nodup_append.mp distinct).1
    obtain ⟨place, current, w', ran, hasSet, -⟩ :=
      ih (fun pair mem => replacing pair (List.mem_append_left _ mem)) doneDistinct
        (fun pair mem => steady pair (List.mem_append_left _ mem)) doneBetween
    obtain ⟨result, w₁, replaced⟩ := between (done ++ [pair]).length (by simp) (Nat.le_refl _)
    rw [List.take_length] at replaced
    obtain ⟨place', current', w'', set, hasSet', alike⟩ :=
      hasSet.setter_again remakes (replacing pair (by simp)) distinct steady replaced
    refine ⟨place', current', w'', ?_, hasSet', ?_⟩
    · rw [compose_setters_append]
      have last : (compose creating ([pair].map (·.setter creating)) (.object place) source).Ends
          w' (.object place') w'' := by
        rw [List.map_singleton, compose, List.foldlM_cons]
        exact set.bind (Run.ends_pure _ _)
      exact ran.bind last
    · intro _ result' w₁' replaced'
      obtain ⟨rfl, rfl⟩ := replaced.unique replaced'
      exact alike

end Setting

end ObjectMapping
