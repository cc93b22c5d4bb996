import ObjectMapping.Package.Validation
import ObjectMapping.Proofs.Class.Making

/-!
# Fitting values without a trace

Fitting a value to a type looks at the value and makes new ones. It keeps every
condition that has to do with older objects only, as long as making instances from
dictionaries does (`ClassTable.preserves_fit`).
-/

namespace ObjectMapping

variable {kept : World → Prop} {free : Nat → Prop}

theorem preserves_refused {α : Type} : (refused : Run α).Preserves kept :=
  .throw _

namespace ClassTable

theorem preserves_entriesOf (v : Value) : (entriesOf v).Preserves kept := by
  cases v with
  | object address =>
    refine .bind (.object? address) fun found => ?_
    split
    · exact .pure _
    · exact preserves_refused
  | _ => exact preserves_refused

theorem preserves_fitCallable (v : Value) : (fitCallable v).Preserves kept := by
  cases v with
  | type t => exact .ite (fun _ => .pure _) fun _ => preserves_refused
  | member => exact .pure _
  | _ => exact preserves_refused

theorem preserves_fitting? {run : Run Fit} (preserved : run.Preserves kept) :
    (fitting? run).Preserves kept :=
  .tryCatch (preserved.map some) fun _ => .ite (fun _ => .pure _) fun _ => .throw _

variable (classes : ClassTable Code)

theorem preserves_fitInstance (c : ClassId) (v : Value) :
    (classes.fitInstance c v).Preserves kept := by
  refine (classes.preserves_isInstance v c).bind fun found => .ite (fun _ => ?_) fun _ => ?_
  · exact (classes.preserves_classOf v).bind fun _ => .pure _
  · exact preserves_refused

theorem preserves_fitSubclass (ancestor : TypeExpr) (v : Value) :
    (classes.fitSubclass ancestor v).Preserves kept := by
  unfold fitSubclass
  split
  · exact .ite (fun _ => .pure _) fun _ => preserves_refused
  · exact .ite (fun _ => .pure _) fun _ => preserves_refused
  · exact preserves_refused

theorem preserves_elementsFor (c : StandardClass) (v : Value) :
    (classes.elementsFor c v).Preserves kept := by
  refine (classes.preserves_classOf v).bind fun actual => ?_
  refine .ite (fun _ => ?_) fun _ => preserves_refused
  exact (preserves_elements v).bind fun _ => .pure _

/-! ## New values -/

variable (leaves : World.LeavesFree kept free)

include leaves

omit classes in
theorem preserves_convertedTo (made? : Option (Making → Value)) :
    (convertedTo made?).Preserves kept := by
  cases made? with
  | none => exact preserves_refused
  | some value => exact (Run.preserves_make leaves value).bind fun _ => .pure _

omit classes in
theorem preserves_fitFloating (v : Value) : (fitFloating v).Preserves kept := by
  have made (value : Making → Value) (closeness : Closeness) : Run.Preserves kept (do
      return { value := ← Run.make value, closeness := closeness } : Run Fit) :=
    (Run.preserves_make leaves value).bind fun _ => .pure _
  unfold fitFloating
  split
  · exact preserves_convertedTo leaves _
  · exact .pure _
  · exact preserves_convertedTo leaves _
  · split
    · exact preserves_refused
    · exact made _ _
  · split
    · exact made _ _
    · exact preserves_refused
  · exact preserves_refused

theorem preserves_containerOf (c : StandardClass) (items : List Value) :
    (classes.containerOf c items).Preserves kept := by
  have keys : (items.allM classes.isKey).Preserves kept :=
    .allM (fun v => classes.preserves_isKey v) items
  unfold containerOf
  split
  · exact Run.preserves_allocate leaves _
  · exact Run.preserves_make leaves _
  · exact keys.bind fun _ => .ite (fun _ => Run.preserves_make leaves _) fun _ => preserves_refused
  · exact keys.bind fun _ => .ite (fun _ => Run.preserves_allocate leaves _) fun _ =>
      preserves_refused

theorem preserves_fitContainer (c : StandardClass) {fitItem : Value → Run Fit}
    (each : ∀ v, (fitItem v).Preserves kept) (v : Value) :
    (classes.fitContainer c fitItem v).Preserves kept := by
  refine (classes.preserves_elementsFor c v).bind fun entry => ?_
  refine (Run.Preserves.mapM each entry.1).bind fun fits => ?_
  exact (classes.preserves_containerOf leaves c _).bind fun _ => .pure _

theorem preserves_fitTuple {fitItems : List Value → Run (List Fit)}
    (all : ∀ vs, (fitItems vs).Preserves kept) (v : Value) :
    (classes.fitTuple fitItems v).Preserves kept := by
  refine (classes.preserves_elementsFor .tuple v).bind fun entry => ?_
  refine (all entry.1).bind fun fits => ?_
  exact (Run.preserves_make leaves _).bind fun _ => .pure _

omit classes in
theorem preserves_fitDictionary {fitKey fitItem : Value → Run Fit}
    (key : ∀ v, (fitKey v).Preserves kept) (item : ∀ v, (fitItem v).Preserves kept) (v : Value) :
    (fitDictionary fitKey fitItem v).Preserves kept := by
  refine (preserves_entriesOf v).bind fun entries => ?_
  refine (Run.Preserves.mapM (fun entry => (key entry.1).bind fun _ => (item entry.2).bind fun _ =>
    .pure _) entries).bind fun fits => ?_
  exact (Run.preserves_allocate leaves _).bind fun _ => .pure _

omit classes in
theorem preserves_fitWholeNumber (v : Value) : (fitWholeNumber v).Preserves kept := by
  cases v with
  | int => exact .pure _
  | _ => exact preserves_convertedTo leaves _

omit classes in
theorem preserves_fitText (v : Value) : (fitText v).Preserves kept := by
  cases v with
  | str => exact .pure _
  | _ => exact preserves_convertedTo leaves _

omit classes in
theorem preserves_fitBytes (v : Value) : (fitBytes v).Preserves kept := by
  cases v with
  | bytes => exact .pure _
  | str => exact preserves_convertedTo leaves _
  | _ => exact preserves_refused

omit classes leaves in
theorem preserves_fitTruth (v : Value) : (fitTruth v).Preserves kept := by
  unfold fitTruth
  dsimp only
  split
  · exact .pure _
  · exact .pure _
  · exact preserves_refused

omit classes leaves in
theorem preserves_fitLiteral (values : List Scalar) (v : Value) :
    (fitLiteral values v).Preserves kept :=
  .ite (fun _ => .pure _) fun _ => preserves_refused

theorem preserves_fitStandard (c : StandardClass) (v : Value) :
    (classes.fitStandard c v).Preserves kept := by
  have anything (v : Value) : (fitAnything v).Preserves kept := .pure _
  have moment (c : StandardClass) : Run.Preserves kept (do
      if (← classes.classOf v) == .standard c then return { value := v }
      convertedTo (convertedValue? c v) : Run Fit) :=
    (classes.preserves_classOf v).bind fun _ => .ite (fun _ => .pure _) fun _ =>
      preserves_convertedTo leaves _
  cases c with
  | object => exact anything v
  | noneType => exact .ite (fun _ => .pure _) fun _ => preserves_refused
  | bool => exact preserves_fitTruth v
  | int => exact preserves_fitWholeNumber leaves v
  | float => exact preserves_fitFloating leaves v
  | str => exact preserves_fitText leaves v
  | bytes => exact preserves_fitBytes leaves v
  | list | set | frozenset | tuple => exact classes.preserves_fitContainer leaves _ anything v
  | dict => exact preserves_fitDictionary leaves anything anything v
  | date | datetime | timedelta | uuid | decimal => exact moment _
  | _ => exact classes.preserves_fitInstance _ v

variable {make : ClassId → Entries String Value → Run Value}
  (makes : ∀ c given, (make c given).Preserves kept)

include makes

omit leaves in
theorem preserves_fitDeclared (c : ClassId) (v : Value) :
    (classes.fitDeclared make c v).Preserves kept := by
  refine .ite (fun _ => .throw _) fun _ => ?_
  refine (classes.preserves_isInstance v c).bind fun found => ?_
  refine .ite (fun _ => ?_) fun _ => classes.preserves_fitInstance c v
  exact (preserves_entriesOf v).bind fun _ => (makes c _).bind fun _ => .pure _

/-- Fitting keeps what making instances keeps. The induction is on types, together
with lists of types, of which all or only the best member counts. -/
theorem preserves_fit :
    (∀ t v, (classes.fit make t v).Preserves kept) ∧
    (∀ types v found, (classes.fitSome make types v found).Preserves kept) ∧
    (∀ types vs, (classes.fitEach make types vs).Preserves kept) := by
  have anything (v : Value) : (fitAnything v).Preserves kept := .pure _
  apply fit.mutual_induct (fun t v => (classes.fit make t v).Preserves kept)
    (fun types v found => (classes.fitSome make types v found).Preserves kept)
    (fun types vs => (classes.fitEach make types vs).Preserves kept)
  case case1 =>
    intro c v s standard
    rw [fit, standard]
    exact classes.preserves_fitStandard leaves s v
  case case2 =>
    intro c v index declared
    rw [fit]
    simp only [declared]
    exact classes.preserves_fitDeclared makes _ v
  case case3 | case4 =>
    intros
    rw [fit]
    exact anything _
  case case5 | case6 | case7 =>
    intro v
    rw [fit]
    exact classes.preserves_fitStandard leaves _ v
  case case8 | case9 =>
    intros
    rw [fit]
    exact preserves_fitCallable _
  case case10 | case11 | case12 | case13 | case14 =>
    intro item v fits
    rw [fit]
    exact classes.preserves_fitContainer leaves _ fits v
  case case15 =>
    intro items v notEllipsis all
    rw [fit]
    · exact classes.preserves_fitTuple leaves all v
    · exact notEllipsis
  case case16 | case17 =>
    intro key item v fitsKey fitsItem
    rw [fit]
    exact preserves_fitDictionary leaves fitsKey fitsItem v
  case case18 =>
    intro ancestor v
    rw [fit]
    exact classes.preserves_fitSubclass ancestor v
  case case19 =>
    intro arguments v
    rw [fit]
    exact classes.preserves_fitStandard leaves _ v
  case case20 =>
    intro qualifier inner v notMapped fits
    rw [fit]
    · exact fits
    · exact notMapped
  case case21 =>
    intro inner metadata v fits
    rw [fit]
    exact fits
  case case22 =>
    intro place source inner v fits
    rw [fit]
    exact fits
  case case23 =>
    intro values v
    rw [fit]
    exact preserves_fitLiteral values v
  case case24 =>
    intro spelling members v isNull
    unfold fit
    rw [if_pos isNull]
    exact .pure _
  case case25 =>
    intro spelling members v notNull best
    unfold fit
    rw [if_neg notNull]
    refine best.bind fun found => ?_
    cases found with
    | some found => exact .pure _
    | none => exact preserves_refused
  case case26 =>
    intros
    rw [fit]
    · exact preserves_refused
    all_goals assumption
  case case27 =>
    intro v found
    rw [fitSome]
    exact .pure _
  case case28 =>
    intro t types v found fits better others
    rw [fitSome]
    refine (preserves_fitting? fits).bind fun next? => ?_
    cases next? with
    | none => exact others
    | some next => exact .ite (fun _ => .pure _) fun _ => better next
  case case29 =>
    rw [fitEach]
    exact .pure _
  case case30 =>
    intro t types v values fits others
    rw [fitEach]
    exact fits.bind fun _ => others.bind fun _ => .pure _
  case case31 =>
    intro types values notEmpty notBoth
    rw [fitEach]
    · exact preserves_refused
    · exact notEmpty
    · exact notBoth

end ClassTable

end ObjectMapping
