import ObjectMapping.Proofs.Mapping.Building

/-!
# Calls in any order

Calls that drop properties look for them in the lists that the calls before them
left, so that the order of a chain may decide which property a call finds and
whether it finds one. `dropping_in_any_order` says that it does not, for every
number of such calls and one that sets the factory.

Two calls are compared on their own first (`Commuting`). A chain whose calls
commute with one another has the same result in every order
(`performAll_perm`). Contextual specifications drop properties in the
specification inside, and their calls commute because those do.
-/

namespace ObjectMapping

variable {σ κ : Type}

/-- Two calls succeed one after the other with the same results in both orders. -/
def Commuting (perform : σ → κ → Except MappingError σ) (a b : κ) : Prop :=
  ∀ s built,
    (∃ next, perform s a = .ok next ∧ perform next b = .ok built) ↔
      ∃ next, perform s b = .ok next ∧ perform next a = .ok built

namespace Commuting

variable {perform : σ → κ → Except MappingError σ} {a b : κ}

theorem refl (a : κ) : Commuting perform a a :=
  fun _ _ => Iff.rfl

theorem symm (commuting : Commuting perform a b) : Commuting perform b a :=
  fun s built => (commuting s built).symm

/-- Two calls commute if the results of either order are results of the other. -/
theorem of_imp
    (forth : ∀ s next built, perform s a = .ok next → perform next b = .ok built →
      ∃ next', perform s b = .ok next' ∧ perform next' a = .ok built)
    (back : ∀ s next built, perform s b = .ok next → perform next a = .ok built →
      ∃ next', perform s a = .ok next' ∧ perform next' b = .ok built) :
    Commuting perform a b := by
  intro s built
  constructor
  · rintro ⟨next, first, second⟩
    exact forth s next built first second
  · rintro ⟨next, first, second⟩
    exact back s next built first second

/-- Calls that act on a part of a larger state commute on it as they do on the part. -/
theorem of_part {τ κ' : Type} {perform' : τ → κ' → Except MappingError τ} {a' b' : κ'}
    (part : τ → σ) (put : τ → σ → τ) (part_put : ∀ t s, part (put t s) = s)
    (put_put : ∀ t s s', put (put t s) s' = put t s')
    (first : ∀ t, perform' t a' = (perform (part t) a).map (put t))
    (second : ∀ t, perform' t b' = (perform (part t) b).map (put t))
    (commuting : Commuting perform a b) : Commuting perform' a' b' := by
  have both : ∀ {c d : κ} {c' d' : κ'}, (∀ t, perform' t c' = (perform (part t) c).map (put t)) →
      (∀ t, perform' t d' = (perform (part t) d).map (put t)) → ∀ t built,
      (∃ next, perform' t c' = .ok next ∧ perform' next d' = .ok built) ↔
        ∃ s, (∃ next, perform (part t) c = .ok next ∧ perform next d = .ok s) ∧
          put t s = built := by
    intro c d c' d' first second t built
    rw [first]
    cases perform (part t) c with
    | error e => simp [Except.map]
    | ok next =>
      simp only [Except.map, Except.ok.injEq, exists_eq_left', second, part_put]
      cases perform next d with
      | error e => simp
      | ok s => simp [put_put]
  intro t built
  rw [both first second, both second first]
  simp only [commuting (part t)]

end Commuting

section Chains

variable {perform : σ → κ → Except MappingError σ}

/-- A chain of calls that commute with one another has the same results in every order. -/
theorem performAll_perm {calls calls' : List κ} (reordered : calls.Perm calls')
    (commuting : calls.Pairwise (Commuting perform)) (s built : σ) :
    performAll perform s calls = .ok built ↔ performAll perform s calls' = .ok built := by
  induction reordered generalizing s with
  | nil => rfl
  | cons call _ ih =>
    simp only [performAll_cons_eq_ok_iff, ih commuting.of_cons]
  | swap a b rest =>
    have firstTwo : ∀ c d, performAll perform s (c :: d :: rest) = .ok built ↔
        ∃ later, (∃ next, perform s c = .ok next ∧ perform next d = .ok later) ∧
          performAll perform later rest = .ok built := by
      intro c d
      simp only [performAll_cons_eq_ok_iff]
      constructor
      · rintro ⟨next, first, later, second, ended⟩
        exact ⟨later, ⟨next, first, second⟩, ended⟩
      · rintro ⟨later, ⟨next, first, second⟩, ended⟩
        exact ⟨next, first, later, second, ended⟩
    have swapped := List.rel_of_pairwise_cons commuting List.mem_cons_self
    simp only [firstTwo, swapped s]
  | trans reordered _ ih ih' =>
    have commuting' := (reordered.pairwise_iff Commuting.symm).mp commuting
    exact (ih commuting s).trans (ih' commuting' s)

/-- A chain that fails does so at the call that its error tells. -/
theorem exists_of_performAll_eq_error {calls : List κ} {s : σ} {place : Nat} {e : MappingError}
    (failed : performAll perform s calls = .error (place, e)) :
    ∃ call s', calls[place]? = some call ∧ perform s' call = .error e := by
  induction calls generalizing s place with
  | nil => cases failed
  | cons call rest ih =>
    rw [performAll] at failed
    cases step : perform s call with
    | error e' =>
      rw [step] at failed
      cases failed
      exact ⟨call, s, rfl, step⟩
    | ok next =>
      simp only [step] at failed
      cases later : performAll perform next rest with
      | ok built =>
        rw [later] at failed
        cases failed
      | error failure =>
        rw [later] at failed
        cases failed
        obtain ⟨call', s', found, failed'⟩ := ih later
        exact ⟨call', s', by simpa [Nat.add_comm 1] using found, failed'⟩

end Chains

namespace BuilderCall

variable {Custom Read : Type}

/-- The call that drops a property of one side. -/
def drop : Side × String → BuilderCall Custom Read
  | (.target, name) => .ignoreTarget name
  | (.source, name) => .ignoreSource name

/-- Calls that drop properties, and one that sets the factory if there is one. -/
def dropping (dropped : List (Side × String)) (factory? : Option Factory) :
    List (BuilderCall Custom Read) :=
  dropped.map drop ++ factory?.toList.map .withFactory

/-- Calls that drop properties commute with each other and with a call that sets the
factory if they do so two by two. -/
theorem dropping_commuting {perform : σ → BuilderCall Custom Read → Except MappingError σ}
    (drops : ∀ a b, Commuting perform (.drop a) (.drop b))
    (factory : ∀ a factory, Commuting perform (.drop a) (.withFactory factory))
    (dropped : List (Side × String)) (factory? : Option Factory) :
    (dropping dropped factory?).Pairwise (Commuting perform) := by
  rw [dropping, List.pairwise_append]
  refine ⟨?_, ?_, ?_⟩
  · rw [List.pairwise_map]
    exact List.pairwise_of_forall drops
  · cases factory? with
    | none => exact .nil
    | some factory => exact List.pairwise_singleton _ _
  · intro call mem call' mem'
    obtain ⟨a, -, rfl⟩ := List.mem_map.mp mem
    obtain ⟨made, -, rfl⟩ := List.mem_map.mp mem'
    exact factory a made

end BuilderCall

/-- A property is found by its name among those that are left when one of another name
has gone. -/
theorem find?_withoutTarget {targets : List TargetProperty} {t : TargetProperty} {name : String}
    (apart : t.name ≠ name) :
    (withoutTarget targets t).find? (·.name == name) = targets.find? (·.name == name) := by
  rw [withoutTarget, List.find?_filter]
  congr 1
  funext t'
  by_cases same : t'.name = name
  · simp [TargetProperty.isOne, same, Ne.symm apart]
  · simp [same]

theorem find?_withoutSource {sources : List SourceProperty} {p : SourceProperty} {name : String}
    (apart : p.name ≠ name) :
    (withoutSource sources p).find? (·.name == name) = sources.find? (·.name == name) := by
  rw [withoutSource, List.find?_filter]
  congr 1
  funext p'
  by_cases same : p'.name = name
  · simp [SourceProperty.isOne, same, Ne.symm apart]
  · simp [same]

theorem withoutTarget_comm (targets : List TargetProperty) (t t' : TargetProperty) :
    withoutTarget (withoutTarget targets t) t' = withoutTarget (withoutTarget targets t') t :=
  List.filter_comm _ _ _

theorem withoutSource_comm (sources : List SourceProperty) (p p' : SourceProperty) :
    withoutSource (withoutSource sources p) p' = withoutSource (withoutSource sources p') p :=
  List.filter_comm _ _ _

namespace Specification

variable (classes : ClassTable Code) {s built : Specification}

theorem drop_target_eq_ok_iff [Packages] (name : String) :
    s.perform classes (.drop (.target, name)) = .ok built ↔
      ∃ t, s.targetNamed name = .ok t ∧
        built = { s with targets := withoutTarget s.targets t } := by
  rw [perform_eq_ok_iff]
  constructor
  · intro performed
    cases performed with
    | ignoreTarget found => exact ⟨_, found, rfl⟩
  · rintro ⟨t, found, rfl⟩
    exact .ignoreTarget found

theorem drop_source_eq_ok_iff [Packages] (name : String) :
    s.perform classes (.drop (.source, name)) = .ok built ↔
      ∃ p, s.sourceNamed name = .ok p ∧
        built = { s with sources := withoutSource s.sources p } := by
  rw [perform_eq_ok_iff]
  constructor
  · intro performed
    cases performed with
    | ignoreSource found => exact ⟨_, found, rfl⟩
  · rintro ⟨p, found, rfl⟩
    exact .ignoreSource found

/-- Another property that goes does not decide what a name finds. -/
theorem targetNamed_withoutTarget {t : TargetProperty} {name name' : String}
    (found : s.targetNamed name = .ok t) (apart : name ≠ name') (t' : TargetProperty) :
    { s with targets := withoutTarget s.targets t }.targetNamed name' = .ok t' ↔
      s.targetNamed name' = .ok t' := by
  obtain ⟨-, rfl⟩ := of_targetNamed_eq_ok found
  rw [targetNamed_eq_ok_iff, targetNamed_eq_ok_iff, find?_withoutTarget apart]

theorem sourceNamed_withoutSource {p : SourceProperty} {name name' : String}
    (found : s.sourceNamed name = .ok p) (apart : name ≠ name') (p' : SourceProperty) :
    { s with sources := withoutSource s.sources p }.sourceNamed name' = .ok p' ↔
      s.sourceNamed name' = .ok p' := by
  obtain ⟨-, rfl⟩ := of_sourceNamed_eq_ok found
  rw [sourceNamed_eq_ok_iff, sourceNamed_eq_ok_iff, find?_withoutSource apart]

/-- Two calls that drop different properties can change places: neither takes away
what the other looks for. -/
theorem exchange_drops [Packages] {a b : Side × String} (apart : a ≠ b) {next : Specification}
    (first : s.perform classes (.drop a) = .ok next)
    (second : next.perform classes (.drop b) = .ok built) :
    ∃ next', s.perform classes (.drop b) = .ok next' ∧
      next'.perform classes (.drop a) = .ok built := by
  obtain ⟨side, name⟩ := a
  obtain ⟨side', name'⟩ := b
  cases side <;> cases side' <;>
    simp only [drop_target_eq_ok_iff, drop_source_eq_ok_iff] at first second ⊢ <;>
    obtain ⟨p, found, rfl⟩ := first <;> obtain ⟨p', found', rfl⟩ := second
  case target.target =>
    have apart' : name ≠ name' := fun same => apart (by rw [same])
    rw [targetNamed_withoutTarget found apart'] at found'
    refine ⟨_, ⟨p', found', rfl⟩, p, ?_, ?_⟩
    · exact (targetNamed_withoutTarget found' apart'.symm p).mpr found
    · simp only [withoutTarget_comm s.targets p p']
  case target.source => exact ⟨_, ⟨p', found', rfl⟩, p, found, rfl⟩
  case source.target => exact ⟨_, ⟨p', found', rfl⟩, p, found, rfl⟩
  case source.source =>
    have apart' : name ≠ name' := fun same => apart (by rw [same])
    rw [sourceNamed_withoutSource found apart'] at found'
    refine ⟨_, ⟨p', found', rfl⟩, p, ?_, ?_⟩
    · exact (sourceNamed_withoutSource found' apart'.symm p).mpr found
    · simp only [withoutSource_comm s.sources p p']

theorem drops_commuting [Packages] (a b : Side × String) :
    Commuting (Specification.perform classes) (.drop a) (.drop b) := by
  by_cases same : a = b
  · exact same ▸ .refl _
  · apply Commuting.of_imp
    · exact fun s next built => exchange_drops classes same
    · exact fun s next built => exchange_drops classes (Ne.symm same)

/-- Setting the factory neither changes what a call finds nor what it leaves. -/
theorem drop_withFactory_commuting [Packages] (a : Side × String) (factory : Factory) :
    Commuting (Specification.perform classes) (.drop a) (.withFactory factory) := by
  have set : ∀ s built : Specification,
      s.perform classes (.withFactory factory) = .ok built ↔ built = s.withFactory factory := by
    intro s built
    rw [perform_eq_ok_iff]
    constructor
    · rintro ⟨⟩
      rfl
    · rintro rfl
      exact .withFactory factory
  obtain ⟨side, name⟩ := a
  intro s built
  cases side <;> simp only [drop_target_eq_ok_iff, drop_source_eq_ok_iff, set]
  case target =>
    constructor
    · rintro ⟨_, ⟨t, found, rfl⟩, rfl⟩
      exact ⟨_, rfl, t, found, rfl⟩
    · rintro ⟨_, rfl, t, found, rfl⟩
      exact ⟨_, ⟨t, found, rfl⟩, rfl⟩
  case source =>
    constructor
    · rintro ⟨_, ⟨p, found, rfl⟩, rfl⟩
      exact ⟨_, rfl, p, found, rfl⟩
    · rintro ⟨_, rfl, p, found, rfl⟩
      exact ⟨_, ⟨p, found, rfl⟩, rfl⟩

/-- A call that drops a property fails only for want of it. -/
theorem drop_eq_error [Packages] {a : Side × String} {e : MappingError}
    (failed : s.perform classes (.drop a) = .error e) :
    ∃ owner known, e = .unknownProperty a.1 a.2 owner known := by
  obtain ⟨side, name⟩ := a
  cases side with
  | target =>
    simp only [BuilderCall.drop, perform, ignoringTarget, targetNamed] at failed
    split at failed
    · cases failed
    · cases failed
      exact ⟨_, _, rfl⟩
  | source =>
    simp only [BuilderCall.drop, perform, ignoringSource, sourceNamed] at failed
    split at failed
    · cases failed
    · cases failed
      exact ⟨_, _, rfl⟩

end Specification

namespace ContextualSpecification

variable (classes : ClassTable Code)

/-- The calls act on the specification inside. -/
theorem perform_drop [Packages] (c : ContextualSpecification) (a : Side × String) :
    c.perform classes (.drop a) =
      (c.inner.perform classes (.drop a)).map fun s => { c with inner := s } := by
  obtain ⟨side, name⟩ := a
  cases side with
  | target =>
    simp only [BuilderCall.drop, perform, ignoringTarget, Specification.perform]
    cases c.inner.ignoringTarget name <;> rfl
  | source =>
    simp only [BuilderCall.drop, perform, ignoringSource, Specification.perform]
    cases c.inner.ignoringSource name <;> rfl

theorem drops_commuting [Packages] (a b : Side × String) :
    Commuting (ContextualSpecification.perform classes) (.drop a) (.drop b) :=
  .of_part (·.inner) (fun c s => { c with inner := s }) (fun _ _ => rfl) (fun _ _ _ => rfl)
    (fun c => c.perform_drop classes a) (fun c => c.perform_drop classes b)
    (Specification.drops_commuting classes a b)

theorem drop_withFactory_commuting [Packages] (a : Side × String) (factory : Factory) :
    Commuting (ContextualSpecification.perform classes) (.drop a) (.withFactory factory) :=
  .of_part (·.inner) (fun c s => { c with inner := s }) (fun _ _ => rfl) (fun _ _ _ => rfl)
    (fun c => c.perform_drop classes a) (fun _ => rfl)
    (Specification.drop_withFactory_commuting classes a factory)

/-- A call that drops a property fails only for want of it. -/
theorem drop_eq_error [Packages] {c : ContextualSpecification} {a : Side × String}
    {e : MappingError} (failed : c.perform classes (.drop a) = .error e) :
    ∃ owner known, e = .unknownProperty a.1 a.2 owner known := by
  rw [perform_drop] at failed
  cases inside : c.inner.perform classes (.drop a) with
  | ok s =>
    rw [inside] at failed
    cases failed
  | error e' =>
    rw [inside] at failed
    cases failed
    exact Specification.drop_eq_error classes inside

end ContextualSpecification

/-- A chain of calls succeeds in every order and always with one result, or it
reports in every order that a call drops a property that is not there. -/
def InAnyOrder {Custom Read : Type}
    (performAll : List (BuilderCall Custom Read) → Except (Nat × MappingError) σ)
    (calls : List (BuilderCall Custom Read)) : Prop :=
  (∃ built, ∀ order, order.Perm calls → performAll order = .ok built) ∨
    ∀ order, order.Perm calls → ∃ place side name owner known,
      order[place]? = some (.drop (side, name)) ∧
        performAll order = .error (place, .unknownProperty side name owner known)

/-- Calls that commute two by two, and that fail only for want of a property, give
chains that end alike in every order. -/
theorem InAnyOrder.of_commuting {Custom Read : Type}
    {perform : σ → BuilderCall Custom Read → Except MappingError σ}
    (drops : ∀ a b, Commuting perform (.drop a) (.drop b))
    (withFactory : ∀ a factory, Commuting perform (.drop a) (.withFactory factory))
    (unknown : ∀ a s e, perform s (.drop a) = .error e →
      ∃ owner known, e = .unknownProperty a.1 a.2 owner known)
    (accepted : ∀ factory s e, perform s (.withFactory factory) ≠ .error e)
    (dropped : List (Side × String)) (factory? : Option Factory) (s : σ) :
    InAnyOrder (performAll perform s) (BuilderCall.dropping dropped factory?) := by
  have commuting := BuilderCall.dropping_commuting drops withFactory dropped factory?
  cases ended : performAll perform s (BuilderCall.dropping dropped factory?) with
  | ok built =>
    refine .inl ⟨built, fun order reordered => ?_⟩
    exact (performAll_perm reordered.symm commuting s built).mp ended
  | error failure =>
    refine .inr fun order reordered => ?_
    cases ended' : performAll perform s order with
    | ok built =>
      -- Then the order that failed would have succeeded as well.
      rw [← performAll_perm reordered.symm commuting, ended] at ended'
      cases ended'
    | error failure' =>
      obtain ⟨place, e⟩ := failure'
      obtain ⟨call, s', found, failed⟩ := exists_of_performAll_eq_error ended'
      have mem := reordered.subset (List.mem_of_getElem? found)
      rcases List.mem_append.mp mem with mem | mem
      · obtain ⟨⟨side, name⟩, -, rfl⟩ := List.mem_map.mp mem
        obtain ⟨owner, known, rfl⟩ := unknown _ s' e failed
        exact ⟨place, side, name, owner, known, found, rfl⟩
      · obtain ⟨factory, -, rfl⟩ := List.mem_map.mp mem
        exact absurd failed (accepted factory s' e)

/-- Calls that drop properties, with one that sets the factory or without, have one
result in every order, or none in any. Names may be dropped more than once and
properties may share a name. -/
theorem dropping_in_any_order [Packages] (classes : ClassTable Code)
    (dropped : List (Side × String)) (factory? : Option Factory) :
    (∀ s : Specification,
      InAnyOrder (s.performAll classes) (BuilderCall.dropping dropped factory?)) ∧
    ∀ c : ContextualSpecification,
      InAnyOrder (c.performAll classes) (BuilderCall.dropping dropped factory?) := by
  constructor
  · apply InAnyOrder.of_commuting
    · exact Specification.drops_commuting classes
    · exact Specification.drop_withFactory_commuting classes
    · exact fun a s e => Specification.drop_eq_error classes
    · rintro factory s e ⟨⟩
  · apply InAnyOrder.of_commuting
    · exact ContextualSpecification.drops_commuting classes
    · exact ContextualSpecification.drop_withFactory_commuting classes
    · exact fun a c e => ContextualSpecification.drop_eq_error classes
    · rintro factory c e ⟨⟩

end ObjectMapping
