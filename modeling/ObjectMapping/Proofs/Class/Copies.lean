import ObjectMapping.Class.Copying
import ObjectMapping.Proofs.Value.Likeness

/-!
# What deep copies hold

A deep copy of a value is like the value, made of new objects, and leaves all objects
that there were as they are (`deepCopy_ends`). Objects that hold each other are copied
while their copies are still unfilled. So what is said of copying midway is which copies
belong to which objects, and that those made since some point are filled by now
(`CopiesGrow`).
-/

namespace ObjectMapping

variable {base w w' w'' : World} {copies copies' copies'' : Copies}

/-- The object at the second address stands for the one at the first: it is that object
itself or a copy of it. -/
def World.Represents (base : World) (copies : Copies) (address copy : Nat) : Prop :=
  address < base.heap.next ∧ (copy = address ∨ (address, copy) ∈ copies)

/-- Since some point of copying, no object that there was has changed, and the copies
that were made are filled. -/
structure CopiesGrow (base : World) (copies : Copies) (w : World) (copies' : Copies)
    (w' : World) : Prop where
  keeps : w.Keeps [] w'
  subset : copies ⊆ copies'
  filled : ∀ address copy, (address, copy) ∈ copies' → (address, copy) ∈ copies ∨
    w.heap.next ≤ copy ∧ ∃ object object', base.heap.get? address = some object ∧
      w'.heap.get? copy = some object' ∧ object.AlikeBy (base.Represents copies') object'

theorem World.Represents.mono (subset : copies ⊆ copies') {address copy : Nat}
    (represents : base.Represents copies address copy) : base.Represents copies' address copy :=
  ⟨represents.1, represents.2.imp_right fun mem => subset mem⟩

namespace CopiesGrow

theorem refl (base : World) (copies : Copies) (w : World) : CopiesGrow base copies w copies w :=
  ⟨.refl _ w, List.Subset.refl _, fun _ _ mem => .inl mem⟩

theorem trans (first : CopiesGrow base copies w copies' w')
    (second : CopiesGrow base copies' w' copies'' w'') : CopiesGrow base copies w copies'' w'' := by
  refine ⟨first.keeps.trans second.keeps, List.Subset.trans first.subset second.subset, ?_⟩
  intro address copy mem
  rcases second.filled address copy mem with earlier | ⟨new, filled⟩
  · rcases first.filled address copy earlier with
      before | ⟨new, object, object', found, found', alike⟩
    · exact .inl before
    · refine .inr ⟨new, object, object', found, second.keeps.found found', ?_⟩
      exact alike.mono fun _ _ => World.Represents.mono second.subset
  · exact .inr ⟨Nat.le_trans first.keeps.growing new, filled⟩

end CopiesGrow

/-- Wherever copying stands, the run ends, fills the copies that it makes, and ends with
something that is as described by all copies made by then. -/
def CopiesAs {α : Type} (base : World) (described : (Nat → Nat → Prop) → α → Prop)
    (run : StateT Copies Run α) : Prop :=
  ∀ copies w, base.Keeps [] w → ∃ a copies' w', Run.Ends (run.run copies) w (a, copies') w' ∧
    CopiesGrow base copies w copies' w' ∧ described (base.Represents copies') a

/-- A description that holds with more copies too. -/
def Persists {α : Type} (described : (Nat → Nat → Prop) → α → Prop) : Prop :=
  ∀ {first second : Nat → Nat → Prop}, (∀ a b, first a b → second a b) →
    ∀ a, described first a → described second a

namespace CopiesAs

variable {α β : Type} {described : (Nat → Nat → Prop) → α → Prop}
  {afterwards : (Nat → Nat → Prop) → β → Prop}

theorem pure {a : α} (always : ∀ copies, described (base.Represents copies) a) :
    CopiesAs base described (Pure.pure a) :=
  fun copies w _ => ⟨a, copies, w, Run.ends_pure _ w, .refl _ _ _, always copies⟩

/-- What the first of two runs ends with is still as described when the second ends. -/
theorem bind {run : StateT Copies Run α} {next : α → StateT Copies Run β}
    (persists : Persists described) (first : CopiesAs base described run)
    (second : ∀ a, CopiesAs base (fun related b => described related a → afterwards related b)
      (next a)) : CopiesAs base afterwards (run >>= next) := by
  intro copies w kept
  obtain ⟨a, copies', w', ran, grow, isFirst⟩ := first copies w kept
  obtain ⟨b, copies'', w'', ran', grow', isSecond⟩ := second a copies' w' (kept.trans grow.keeps)
  refine ⟨b, copies'', w'', ?_, grow.trans grow', isSecond ?_⟩
  · rw [StateT.run_bind]
    exact ran.bind ran'
  · exact persists (fun _ _ => World.Represents.mono grow'.subset) a isFirst

theorem imp {run : StateT Copies Run α} {weaker : (Nat → Nat → Prop) → α → Prop}
    (as : CopiesAs base described run)
    (implies : ∀ related a, described related a → weaker related a) :
    CopiesAs base weaker run := by
  intro copies w kept
  obtain ⟨a, copies', w', ran, grow, described⟩ := as copies w kept
  exact ⟨a, copies', w', ran, grow, implies _ _ described⟩

/-- Copying the items of a list one after another copies each of them. -/
theorem mapM {copy : α → StateT Copies Run β} {alike : (Nat → Nat → Prop) → α → β → Prop}
    (persists : ∀ a, Persists fun related => alike related a) {items : List α}
    (each : ∀ item ∈ items, CopiesAs base (fun related => alike related item) (copy item)) :
    CopiesAs base (fun related => List.Forall₂ (alike related) items) (items.mapM copy) := by
  induction items with
  | nil =>
    rw [List.mapM_nil]
    exact .pure fun _ => .nil
  | cons item rest ih =>
    obtain ⟨eachFirst, eachRest⟩ := List.forall_mem_cons.mp each
    rw [List.mapM_cons]
    have others : CopiesAs base (fun related => List.Forall₂ (alike related) rest)
        (rest.mapM copy) := ih eachRest
    have persist : Persists fun related => List.Forall₂ (alike related) rest :=
      fun implies _ each => each.imp fun a b => persists a implies b
    refine .bind (persists item) eachFirst fun b => .bind persist others fun bs => ?_
    exact .pure fun _ rest first => .cons first rest

end CopiesAs

theorem persists_alikeBy (v : Value) : Persists fun related => v.AlikeBy related :=
  fun implies _ alike => alike.mono implies

/-! ## Deep copies -/

/-- Values within a tuple are within the bounds of the tuple. -/
theorem Value.Within.of_mem {bound : Nat} {items : List Value} {making : Making}
    (within : (Value.tuple items making).Within bound) {item : Value} (mem : item ∈ items) :
    item.Within bound := by
  intro address refers
  apply within address
  rw [addresses, addressesAll_eq]
  exact List.mem_flatMap.mpr ⟨item, mem, refers⟩

/-- An object is copied by making the copy first and filling it then. -/
theorem filled_ends {α : Type} {fill : StateT Copies Run α} {toObject : α → Object}
    {object : Object}
    (fills : CopiesAs base (fun related a => object.AlikeBy related (toObject a)) fill)
    {address : Nat} (inBase : base.heap.get? address = some object) (copies : Copies)
    (kept : base.Keeps [] w) :
    ∃ copies' w',
      Run.Ends
        ((fill >>= fun a => do
          liftM (Run.replace w.heap.next (toObject a))
          return .object w.heap.next : StateT Copies Run Value).run
            ((address, w.heap.next) :: copies))
        { w with heap := w.heap.allocate object } (.object w.heap.next, copies') w' ∧
      CopiesGrow base copies w copies' w' ∧
      (Value.object address).AlikeBy (base.Represents copies') (.object w.heap.next) := by
  have allocated := World.Keeps.allocated w object
  obtain ⟨a, copies', w', ran, grow, alike⟩ :=
    fills ((address, w.heap.next) :: copies) _ (kept.trans allocated)
  have growing := grow.keeps.growing
  have unfilled : w.heap.next < w'.heap.next := by
    simp only [Heap.next_allocate] at growing
    omega
  have own : (address, w.heap.next) ∈ copies' := grow.subset List.mem_cons_self
  refine ⟨copies', { w' with heap := w'.heap.set w.heap.next (toObject a) }, ?_, ⟨?_, ?_, ?_⟩, ?_⟩
  · rw [StateT.run_bind]
    exact ran.bind rfl
  · exact (allocated.trans grow.keeps).replaced _ (.inr (Nat.le_refl _))
  · exact fun entry mem => grow.subset (List.mem_cons_of_mem _ mem)
  · intro address' copy mem
    have filledNow : w.heap.next ≤ w.heap.next ∧ ∃ o o', base.heap.get? address = some o ∧
        (w'.heap.set w.heap.next (toObject a)).get? w.heap.next = some o' ∧
        o.AlikeBy (base.Represents copies') o' :=
      ⟨Nat.le_refl _, object, toObject a, inBase, Heap.get?_set_self _ unfilled, alike⟩
    rcases grow.filled address' copy mem with earlier | ⟨new, o, o', foundBase, found, alike'⟩
    · rcases List.mem_cons.mp earlier with isOwn | before
      · cases isOwn
        exact .inr filledNow
      · exact .inl before
    · -- Copies that were made meanwhile are at later addresses.
      simp only [Heap.next_allocate] at new
      have apart : w.heap.next ≠ copy := by omega
      exact .inr ⟨by omega, o, o', foundBase, by rw [Heap.get?_set_ne _ apart, found], alike'⟩
  · exact .object ⟨Heap.lt_next_of_get?_eq_some inBase, .inr own⟩

/-- Copying the attributes of an instance keeps their names. -/
theorem copiesAs_copyEntries {copy : Value → StateT Copies Run Value}
    {entries : Entries String Value}
    (each : ∀ entry ∈ entries, CopiesAs base (fun related => entry.2.AlikeBy related)
      (copy entry.2)) :
    CopiesAs base (fun related copied => entries.AlikeBy related copied)
      (copyEntries copy entries) := by
  have one : ∀ entry ∈ entries, CopiesAs base
      (fun related copied => entry.1 = copied.1 ∧ entry.2.AlikeBy related copied.2)
      (do return (entry.1, ← copy entry.2)) := by
    intro entry mem
    refine .bind (persists_alikeBy entry.2) (each entry mem) fun v => ?_
    exact .pure fun _ alike => ⟨rfl, alike⟩
  have persist : ∀ entry : String × Value, Persists fun related (copied : String × Value) =>
      entry.1 = copied.1 ∧ entry.2.AlikeBy related copied.2 :=
    fun entry _ _ implies copied both => ⟨both.1, both.2.mono implies⟩
  exact (CopiesAs.mapM persist one).imp fun _ _ => Entries.AlikeBy.of_forall₂

/-- Copying the entries of a map one after another copies their keys and values. -/
theorem copiesAs_entries {copy : Value → StateT Copies Run Value} {entries : Entries Value Value}
    (keys : ∀ entry ∈ entries,
      CopiesAs base (fun related => entry.1.AlikeBy related) (copy entry.1))
    (values : ∀ entry ∈ entries, CopiesAs base (fun related => entry.2.AlikeBy related)
      (copy entry.2)) :
    CopiesAs base (fun related copied => (Object.dict entries).AlikeBy related (.dict copied))
      (entries.mapM fun entry => do return (← copy entry.1, ← copy entry.2)) := by
  have one : ∀ entry ∈ entries, CopiesAs base
      (fun related copied => entry.1.AlikeBy related copied.1 ∧ entry.2.AlikeBy related copied.2)
      (do return (← copy entry.1, ← copy entry.2)) := by
    intro entry mem
    refine .bind (persists_alikeBy entry.1) (keys entry mem) fun key => ?_
    refine .bind (persists_alikeBy entry.2) (values entry mem) fun v => ?_
    exact .pure fun _ alike alike' => ⟨alike', alike⟩
  have persist : ∀ entry : Value × Value, Persists fun related (copied : Value × Value) =>
      entry.1.AlikeBy related copied.1 ∧ entry.2.AlikeBy related copied.2 :=
    fun entry _ _ implies copied both => ⟨both.1.mono implies, both.2.mono implies⟩
  exact (CopiesAs.mapM persist one).imp fun _ _ => Object.AlikeBy.dict

theorem copiesAs_deepCopyTo (closed : base.heap.Closed) (depth : Nat) {v : Value}
    (within : v.Within base.heap.next) :
    CopiesAs base (fun related => v.AlikeBy related) (deepCopyTo depth v) := by
  induction depth generalizing v with
  | zero =>
    exact .pure fun copies => .self fun address mem => ⟨within address mem, .inl rfl⟩
  | succ depth ih =>
    have itself : ∀ copies, v.AlikeBy (base.Represents copies) v :=
      fun copies => .self fun address mem => ⟨within address mem, .inl rfl⟩
    cases v with
    | tuple items making =>
      have persist : Persists fun related => List.Forall₂ (Value.AlikeBy related) items :=
        fun implies _ each => each.imp fun a b => persists_alikeBy a implies b
      rw [deepCopyTo]
      refine .bind persist (.mapM persists_alikeBy fun item mem => ih (within.of_mem mem))
        fun made => ?_
      split
      · exact .pure fun copies _ => itself copies
      · intro copies w kept
        have unchanged : w.Keeps [] { w with makings := w.makings + 1 } :=
          ⟨rfl, Nat.le_refl _, fun _ _ _ => rfl⟩
        exact ⟨_, copies, _, rfl, ⟨unchanged, List.Subset.refl _, fun _ _ mem => .inl mem⟩,
          fun each => .tuple each⟩
    | object address =>
      intro copies w kept
      have old : address < base.heap.next := within address (by simp [Value.addresses])
      rw [deepCopyTo]
      cases known : copies.lookup address with
      | some copy =>
        simp only [StateT.run_bind, StateT.run_get, pure_bind, known]
        refine ⟨_, copies, w, rfl, .refl _ _ _, .object ⟨old, .inr ?_⟩⟩
        obtain ⟨before, after, rfl, -⟩ := List.lookup_eq_some_iff.mp known
        simp
      | none =>
        simp only [StateT.run_bind, StateT.run_get, pure_bind, known]
        have look : Run.Ends ((liftM (Run.object? address) : StateT Copies Run _).run copies) w
            (w.heap.get? address, copies) w := rfl
        cases found : w.heap.get? address with
        | none =>
          rw [found] at look
          exact ⟨_, copies, w, look.bind rfl, .refl _ _ _, itself copies⟩
        | some object =>
          rw [found] at look
          have inBase : base.heap.get? address = some object := by
            rw [← kept.others address old List.not_mem_nil, found]
          have inside : ∀ v ∈ object.values, CopiesAs base (fun related => v.AlikeBy related)
              (deepCopyTo depth v) :=
            fun v mem => ih (closed address object inBase v mem)
          cases object with
          | list items =>
            have fills := (CopiesAs.mapM persists_alikeBy inside).imp fun _ _ => Object.AlikeBy.list
            obtain ⟨copies', w', ran, grow, alike⟩ := filled_ends fills inBase copies kept
            exact ⟨_, copies', w', look.bind ran, grow, alike⟩
          | set items =>
            have fills := (CopiesAs.mapM persists_alikeBy inside).imp fun _ _ => Object.AlikeBy.set
            obtain ⟨copies', w', ran, grow, alike⟩ := filled_ends fills inBase copies kept
            exact ⟨_, copies', w', look.bind ran, grow, alike⟩
          | dict entries =>
            have fills := copiesAs_entries
              (fun entry mem => inside _ (List.mem_append_left _ (List.mem_map_of_mem mem)))
              (fun entry mem => inside _ (List.mem_append_right _ (List.mem_map_of_mem mem)))
            obtain ⟨copies', w', ran, grow, alike⟩ := filled_ends fills inBase copies kept
            exact ⟨_, copies', w', look.bind ran, grow, alike⟩
          | record r =>
            have attributes := copiesAs_copyEntries fun entry mem =>
              inside entry.2 (List.mem_append_left _ (List.mem_map_of_mem mem))
            have apart := copiesAs_copyEntries fun entry mem =>
              inside entry.2 (List.mem_append_right _ (List.mem_map_of_mem mem))
            have fills : CopiesAs base
                (fun related (copied : Entries String Value × Entries String Value) =>
                  (Object.record r).AlikeBy related
                    (.record { r with attributes := copied.1, apart := copied.2 }))
                (do
                  let attributes ← copyEntries (deepCopyTo depth) r.attributes
                  let apart ← copyEntries (deepCopyTo depth) r.apart
                  return (attributes, apart)) := by
              refine .bind (fun implies _ alike => alike.mono implies) attributes fun copied => ?_
              refine .bind (fun implies _ alike => alike.mono implies) apart fun copied' => ?_
              exact .pure fun _ alike alike' => .record ⟨rfl, alike', alike, rfl⟩
            obtain ⟨copies', w', ran, grow, alike⟩ := filled_ends fills inBase copies kept
            simp only [bind_assoc, pure_bind] at ran
            exact ⟨_, copies', w', look.bind ran, grow, alike⟩
    | _ => exact .pure itself

/-- A value of the base is like one that was made since a world, by objects that were
there or are new. -/
def World.MakesAlike (base w w' : World) (v made : Value) : Prop :=
  ∃ related, base.heap.Matches w'.heap related ∧ v.AlikeBy related made ∧
    ∀ address copy, related address copy →
      address < base.heap.next ∧ (copy < base.heap.next ∨ w.heap.next ≤ copy)

/-- A value stands for itself. -/
theorem World.MakesAlike.self (closed : base.heap.Closed) {v : Value}
    (within : v.Within base.heap.next) (kept : base.Keeps [] w') : base.MakesAlike w w' v v := by
  refine ⟨_, closed.matches_self (.refl [] base) kept, .self fun a mem => ⟨rfl, within a mem⟩, ?_⟩
  rintro address _ ⟨rfl, old⟩
  exact ⟨old, .inl old⟩

/-- What two runs make for a value of their base is alike, and does not refer to objects
that they began before. -/
theorem World.MakesAlike.beside {w₁ w₁' w₂ w₂' : World} {v v₁ v₂ : Value} {own own' : Nat}
    (made : base.MakesAlike w₁ w₁' v v₁) (made' : base.MakesAlike w₂ w₂' v v₂)
    (isNew : base.heap.next ≤ own ∧ own < w₁.heap.next)
    (isNew' : base.heap.next ≤ own' ∧ own' < w₂.heap.next) :
    w₁'.heap.AlikeBeside w₂'.heap own own' v₁ v₂ := by
  obtain ⟨related, isMatched, values, places⟩ := made
  obtain ⟨related', isMatched', values', places'⟩ := made'
  refine ⟨_, isMatched.symm.trans isMatched', values.symm.trans values', ?_⟩
  rintro a c ⟨b, isFirst, isSecond⟩
  have first := (places b a isFirst).2
  have second := (places' b c isSecond).2
  constructor <;> omega

/-- A deep copy is like what it is a copy of, and changes no object. -/
theorem deepCopy_ends (closed : base.heap.Closed) {v : Value} (within : v.Within base.heap.next)
    (kept : base.Keeps [] w) :
    ∃ copy w', (deepCopy v).Ends w copy w' ∧ w.Keeps [] w' ∧ base.MakesAlike w w' v copy := by
  obtain ⟨copy, copies, w', ran, grow, alike⟩ :=
    copiesAs_deepCopyTo closed (depthOf w.heap) within [] w kept
  have current : (get : Run World).Ends w w w := rfl
  refine ⟨copy, w', current.bind (ran.bind rfl), grow.keeps, base.Represents copies, ?_, alike, ?_⟩
  · rintro address copy' ⟨old, rfl | mem⟩
    · obtain ⟨object, _, found, found', -⟩ :=
        closed.matches_self (.refl [] base) (kept.trans grow.keeps) copy' copy' ⟨rfl, old⟩
      have same := (kept.trans grow.keeps).found found
      refine ⟨object, object, found, same, .self fun v mem inner isInner => ?_⟩
      exact ⟨closed copy' object found v mem inner isInner, .inl rfl⟩
    · rcases grow.filled address copy' mem with before | ⟨-, object, object', found, found', filled⟩
      · cases before
      · exact ⟨object, object', found, found', filled⟩
  · rintro address copy' ⟨old, rfl | mem⟩
    · exact ⟨old, .inl old⟩
    · rcases grow.filled address copy' mem with before | ⟨isNew, -⟩
      · cases before
      · exact ⟨old, .inr isNew⟩

/-! ## Defaults -/

section Defaults

variable {β : Type} [Inhabited β] (classes : ClassTable β)

theorem ClassTable.isKeyTo_ends (depth : Nat) (v : Value) (w : World) :
    ∃ found, (classes.isKeyTo depth v).Ends w found w := by
  induction depth generalizing v with
  | zero => exact ⟨true, rfl⟩
  | succ depth ih =>
    have all (values : List Value) (found : Bool) : ∃ result,
        Run.Ends (values.foldlM (fun found v =>
          if found then classes.isKeyTo depth v else return false) found) w result w := by
      induction values generalizing found with
      | nil => exact ⟨found, rfl⟩
      | cons first rest ihRest =>
        rw [List.foldlM_cons]
        obtain ⟨next, step⟩ : ∃ next, Run.Ends
            (if found then classes.isKeyTo depth first else return false) w next w := by
          cases found with
          | true => exact ih first
          | false => exact ⟨false, rfl⟩
        obtain ⟨result, others⟩ := ihRest next
        exact ⟨result, step.bind others⟩
    cases v with
    | tuple items | standard c items => exact all items true
    | object address =>
      have look := Run.ends_object? address w
      cases found : w.heap.get? address with
      | none =>
        rw [found] at look
        exact ⟨true, look.bind rfl⟩
      | some object =>
        rw [found] at look
        cases object with
        | list | set | dict => exact ⟨false, look.bind rfl⟩
        | record r =>
          cases rule : classes.keyRule r.classId with
          | none => exact ⟨false, look.bind (by simp only [rule]; rfl)⟩
          | itself => exact ⟨true, look.bind (by simp only [rule]; rfl)⟩
          | byStore =>
            obtain ⟨result, ended⟩ := all (r.attributes.map (·.2)) true
            exact ⟨result, look.bind (by simp only [rule]; exact ended)⟩
    | _ => exact ⟨true, rfl⟩

/-- What is made from a default is like the value of the default, be it copied or not. -/
theorem Default.create_ends (closed : base.heap.Closed) (d : Default)
    (within : d.value.Within base.heap.next) (kept : base.Keeps [] w) :
    ∃ made w', (d.create classes).Ends w made w' ∧ w.Keeps [] w' ∧
      base.MakesAlike w w' d.value made := by
  cases d with
  | shared v => exact ⟨v, w, rfl, .refl [] w, .self closed within kept⟩
  | copied v => exact deepCopy_ends closed within kept
  | keyOrCopied v =>
    obtain ⟨found, looked⟩ :=
      (classes.changed w.changes).isKeyTo_ends (depthOf w.heap) v w
    have isKey : (classes.isKey v).Ends w found w := looked
    cases found with
    | true => exact ⟨v, w, isKey.bind rfl, .refl [] w, .self closed within kept⟩
    | false =>
      obtain ⟨copy, w', copied, copyKept, alike⟩ := deepCopy_ends closed within kept
      exact ⟨copy, w', isKey.bind copied, copyKept, alike⟩

end Defaults

end ObjectMapping
