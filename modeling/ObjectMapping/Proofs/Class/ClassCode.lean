import ObjectMapping.Class.Storing
import ObjectMapping.Proofs.Class.Making
import ObjectMapping.Proofs.Class.Refusal
import ObjectMapping.Proofs.Package.Laws

/-!
# What the code of classes keeps

Reading attributes, storing them and making instances run code of classes and of
packages. Whether they keep a condition on worlds depends on that code, and
`ClassTable.CodeKeeps` is what has to be known of it: getters keep the condition, and
all other code does so when it runs on an instance at an address that the condition
leaves free.

Then so does reading any attribute of any value, and storing attributes of
instances at free addresses.
-/

namespace ObjectMapping

/-- The code of a class keeps a condition: getters always, and other code when it is
run on an instance at a free address. -/
structure ClassInfo.CodeKeeps (kept : World → Prop) (free : Nat → Prop) (c : ClassInfo Code) :
    Prop where
  getters : ∀ name p getter, Entries.get? c.members name = some (.property p) →
    p.getter? = some getter → ∀ vs, (getter.body vs).Preserves kept
  setters : ∀ name p code, Entries.get? c.members name = some (.property p) →
    p.setter? = some code → ∀ address vs, free address →
      (code (.object address :: vs)).Preserves kept
  constructors : ∀ parameters body, c.initializer? = some (.code parameters body) →
    ∀ address vs, free address → (body (.object address :: vs)).Preserves kept
  afterInit : ∀ code, c.afterInit? = some code →
    ∀ address, free address → (code [.object address]).Preserves kept

/-- The code of all classes keeps a condition, and that of packages does. -/
structure ClassTable.CodeKeeps [Packages] (kept : World → Prop) (free : Nat → Prop)
    (classes : ClassTable Code) : Prop where
  code : ∀ c, (classes.info c).CodeKeeps kept free
  packages : Packages.Keep kept free

variable {kept : World → Prop} {free : Nat → Prop}

/-- Without members and code of its own, a class has no code. -/
theorem ClassInfo.codeKeeps_of_bare {c : ClassInfo Code} (members : c.members = [])
    (initializer : ∀ parameters body, c.initializer? ≠ some (.code parameters body))
    (afterInit : c.afterInit? = none) : c.CodeKeeps kept free where
  getters := by simp [members, Entries.get?]
  setters := by simp [members, Entries.get?]
  constructors := fun parameters body found => absurd found (initializer parameters body)
  afterInit := by simp [afterInit]

/-- A change of a class adds no code. -/
theorem ClassInfo.CodeKeeps.changed {c : ClassInfo Code} (keeps : c.CodeKeeps kept free)
    (change : ClassChange) : (c.changed change).CodeKeeps kept free := by
  have member {name : String} {p : Property Code}
      (found : Entries.get? (c.changed change).members name = some (.property p)) :
      Entries.get? c.members name = some (.property p) := by
    rcases (ClassTable.changed_info c change).2.2 name with same | ⟨shared, added⟩
    · rw [← same, found]
    · rw [added] at found
      cases found
  refine ⟨fun name p getter found => keeps.getters name p getter (member found),
    fun name p code found => keeps.setters name p code (member found), ?_, ?_⟩
  · intro parameters body found
    cases change with
    | stored | completed => exact keeps.constructors parameters body found
    | filledLike => cases found
  · intro code found
    cases change <;> exact keeps.afterInit code found

/-- The getters of standard classes do nothing. -/
theorem StandardClass.codeKeeps_info (c : StandardClass) :
    (c.info (default : Code)).CodeKeeps kept free := by
  have property {name : String} {p : Property Code}
      (found : Entries.get? (c.info (default : Code)).members name = some (.property p)) :
      p.setter? = none ∧ ∀ getter, p.getter? = some getter → getter.body = default := by
    obtain ⟨entry, -, equal⟩ := List.mem_map.mp (Entries.mem_of_get?_eq_some found)
    cases equal
    exact ⟨rfl, by rintro getter ⟨⟩; rfl⟩
  refine ⟨?_, ?_, ?_, by intro code found; cases found⟩
  · intro name p getter found isGetter vs
    rw [(property found).2 getter isGetter]
    exact .pure _
  · intro name p code found isSetter
    rw [(property found).1] at isSetter
    cases isSetter
  · intro parameters body found
    cases c <;> cases found

namespace ClassTable

variable {classes : ClassTable Code}

/-- Standard classes have no code that matters, and neither have positions without a
declaration. -/
theorem codeKeeps_of_declared [Packages] (packages : Packages.Keep kept free)
    (declared : ∀ c ∈ classes.classes, c.CodeKeeps kept free) :
    classes.CodeKeeps kept free := by
  refine ⟨fun c => ?_, packages⟩
  cases c with
  | standard c => exact c.codeKeeps_info
  | declared index =>
    rw [info]
    cases found : classes.classes[index]? with
    | some c => exact declared c (Array.mem_of_getElem? found)
    | none => exact ClassInfo.codeKeeps_of_bare rfl (by simp) rfl

namespace CodeKeeps

variable [Packages] (keeps : classes.CodeKeeps kept free)

include keeps

theorem changed (changes : List (ClassId × ClassChange)) :
    (classes.changed changes).CodeKeeps kept free := by
  induction changes generalizing classes with
  | nil => exact keeps
  | cons entry rest ih =>
    obtain ⟨c, change⟩ := entry
    cases c with
    | standard c => exact ih keeps
    | declared index =>
      refine ih ⟨fun c => ?_, keeps.packages⟩
      rcases info_modify classes index change c with same | changed
      · rw [same]
        exact keeps.code c
      · rw [changed]
        exact (keeps.code c).changed change

/-- A property that a class has comes from a class of its line. -/
theorem property {c : ClassId} {name : String} {owner : ClassId} {p : Property Code}
    (owned : classes.owned? c name = some (owner, .property p)) :
    (∀ getter, p.getter? = some getter → ∀ vs, (getter.body vs).Preserves kept) ∧
      ∀ code, p.setter? = some code → ∀ address vs, free address →
        (code (.object address :: vs)).Preserves kept := by
  obtain ⟨ancestor, mem, found⟩ := List.exists_of_findSome?_eq_some owned
  obtain ⟨c', -, rfl⟩ := List.mem_map.mp mem
  obtain ⟨m, stored, equal⟩ := Option.map_eq_some_iff.mp found
  cases equal
  exact ⟨fun getter isGetter => (keeps.code c').getters name p getter stored isGetter,
    fun code isSetter => (keeps.code c').setters name p code stored isSetter⟩

end CodeKeeps

/-! ## Reading attributes -/

theorem preserves_stored (r : Instance) (name : String) : (stored r name).Preserves kept := by
  unfold stored
  split
  · exact .pure _
  · exact .throw _

section Reading

variable (leaves : World.LeavesFree kept free) (classes : ClassTable Code)

include leaves

theorem preserves_readCommon (r : Instance) (name : String) :
    (classes.readCommon r name).Preserves kept := by
  have stored : (stored r name).Preserves kept := preserves_stored r name
  refine .ite (fun _ => .pure _) fun _ => .ite (fun _ => ?_) fun _ => ?_
  · exact Run.preserves_allocate leaves _
  · split
    · refine .ite (fun _ => .pure _) fun _ => .ite (fun _ => .pure _) fun _ => ?_
      split
      · exact Run.preserves_allocate leaves _
      · exact stored
    · exact stored

theorem preserves_readClass (c : ClassName) (name : String) :
    (classes.readClass c name).Preserves kept := by
  unfold readClass
  split
  · exact .pure _
  · exact Run.preserves_allocate leaves _
  · split
    · exact .pure _
    · exact .pure _
    · split
      · exact .pure _
      · exact .ite (fun _ => .pure _) fun _ => .ite (fun _ => .pure _) fun _ => .throw _
    · exact .throw _

theorem preserves_readType (t : TypeExpr) (name : String) :
    (classes.readType t name).Preserves kept := by
  have ofClass (c : ClassName) := classes.preserves_readClass leaves c name
  fun_induction readType classes t name
  case case1 c => exact ofClass c
  case case2 inner metadata fact found =>
    rw [found]
    exact .pure fact
  case case3 inner metadata reserved absent =>
    rw [absent]
    exact .ite (fun _ => .throw _) fun open' => absurd reserved open'
  case case4 inner metadata unreserved absent ih =>
    rw [absent]
    exact .ite (fun _ => .throw _) fun _ => ih
  case case5 c arguments own fact isOwn found | case6 c arguments own fact isOwn found =>
    rw [found]
    exact .ite (fun _ => .pure fact) fun _ => ofClass _
  case case7 c arguments own absent =>
    rw [absent]
    exact ofClass _
  all_goals
    split
    · exact .pure _
    · exact .ite (fun _ => .throw _) fun _ => ofClass _
    · exact .throw _

omit leaves in
theorem preserves_readPlain (v : Value) (name : String) :
    (classes.readPlain v name).Preserves kept := by
  refine (classes.preserves_classOf v).bind fun c => ?_
  split
  · exact .pure _
  · exact .ite (fun _ => .pure _) fun _ => .ite (fun _ => .pure _) fun _ => .throw _
  · exact .throw _

end Reading

section Code

variable [Packages] {classes : ClassTable Code} (keeps : classes.CodeKeeps kept free)

include keeps

theorem CodeKeeps.readProperty {c : ClassId} {name : String} {owner : ClassId}
    {p : Property Code} (owned : classes.owned? c name = some (owner, .property p))
    (r : Instance) (v : Value) : (classes.readProperty r v name p).Preserves kept := by
  unfold ClassTable.readProperty
  cases found : p.getter? with
  | none => exact .throw _
  | some getter =>
    have read := (keeps.property owned).1 getter found [v]
    exact .tryCatch read fun fault =>
      .ite (fun _ => keeps.packages.readAgain fault read) fun _ => .throw _

variable (concerns : World.ConcernsAttributes kept free)

include concerns

theorem CodeKeeps.readInstance {address : Nat} {r : Instance} (name : String) {w : World}
    (found : w.heap.get? address = some (.record r)) (holds : kept w) :
    kept ((classes.readInstance address r name).run.run w).2 := by
  rw [ClassTable.readInstance]
  split
  · exact keeps.packages.readFact r name w holds
  · next owned => exact keeps.readProperty owned r _ w holds
  · exact keeps.packages.readColumn r name w holds
  · exact keeps.packages.readCollection name found holds
  · exact holds
  · exact preserves_stored r name w holds
  · exact holds
  · exact classes.preserves_readCommon concerns.toLeavesFree r name w holds

/-- Reading an attribute, of whatever value, keeps what getters keep. -/
theorem CodeKeeps.readAttribute (v : Value) (name : String) :
    (classes.readAttribute v name).Preserves kept := by
  refine preserves_now_bind _ fun changes => ?_
  have later := keeps.changed changes
  have plain : ((classes.changed changes).readPlain v name).Preserves kept :=
    preserves_readPlain _ v name
  cases v with
  | object address =>
    intro w holds
    rw [(Run.ends_object? address w).run_bind]
    cases found : w.heap.get? address with
    | none => exact plain w holds
    | some object =>
      cases object with
      | record r => exact later.readInstance concerns name found holds
      | _ => exact plain w holds
  | type t => exact preserves_readType concerns.toLeavesFree _ t name
  | _ => exact plain

end Code

/-! ## Storing attributes -/

section Storing

variable (leaves : World.LeavesFree kept free) {address : Nat} (isFree : free address)

include leaves isFree

theorem preserves_putAttribute (name : String) (v : Value) :
    (putAttribute address name v).Preserves kept := by
  intro w holds
  rw [putAttribute, (Run.ends_object? address w).run_bind]
  split
  · next r found => exact leaves.rewritten w address r _ isFree found holds
  · exact holds

theorem preserves_putOpen (classes : ClassTable Code) (r : Instance) (name : String) (v : Value) :
    (classes.putOpen address r name v).Preserves kept :=
  .ite (fun _ => preserves_putAttribute leaves isFree name v) fun _ => .throw _

/-- An object at a free address may become an instance of another class. -/
theorem preserves_changeClass (classes : ClassTable Code) {r : Instance} (v : Value) {w : World}
    (found : w.heap.get? address = some (.record r)) (holds : kept w) :
    kept ((classes.changeClass address r v).run.run w).2 := by
  unfold changeClass
  split
  · split
    · split
      · exact leaves.rewritten w address r _ isFree found holds
      · exact holds
    · exact holds
  · exact holds

variable [Packages] {classes : ClassTable Code} (keeps : classes.CodeKeeps kept free)

include keeps

theorem CodeKeeps.storeUnguarded (name : String) (v : Value) :
    (classes.storeUnguarded (.object address) name v).Preserves kept := by
  refine preserves_now_bind _ fun changes w holds => ?_
  have later := keeps.changed changes
  rw [(Run.ends_object? address w).run_bind]
  split
  · next r found =>
    have put := preserves_putOpen leaves isFree (classes.changed changes) r name v
    split
    · next p member =>
      obtain ⟨entry, owned, isMember⟩ := Option.map_eq_some_iff.mp member
      obtain ⟨owner, m⟩ := entry
      cases isMember
      cases setter : p.setter? with
      | none => exact holds
      | some code =>
        exact ((later.property owned).2 code setter address [v] isFree).discard w holds
    · exact preserves_putAttribute leaves isFree name v w holds
    · exact keeps.packages.storeColumn name v isFree w holds
    · exact keeps.packages.storeCollection _ name v isFree w holds
    · exact put w holds
    · split
      · exact preserves_changeClass leaves isFree _ v found holds
      · exact put w holds
  · exact holds

theorem CodeKeeps.storeGuarded (r : Instance) (name : String) (v : Value)
    (line : List (ClassInfo Code)) :
    (classes.storeGuarded r address name v line).Preserves kept := by
  have store := keeps.storeUnguarded leaves isFree name v
  induction line with
  | nil => exact store
  | cons ancestor rest ih =>
    rw [ClassTable.storeGuarded]
    split
    · exact ih
    · exact keeps.packages.storeFrozen r name v isFree
    · exact .ite (fun _ => .throw _) fun _ => .ite (fun _ => .throw _) fun _ => ih
    · split
      · exact keeps.packages.storeModel classes _ r name v isFree store
      · exact store

/-- Storing an attribute of an instance at a free address keeps what setters keep. -/
theorem CodeKeeps.writeAttribute (name : String) (v : Value) :
    (classes.writeAttribute (.object address) name v).Preserves kept := by
  refine preserves_now_bind _ fun changes => .bind (.object? address) fun found => ?_
  split
  · exact (keeps.changed changes).storeGuarded leaves isFree _ name v _
  · exact .throw _

end Storing

/-- Storing an attribute of a type is a change of a class at most. -/
theorem preserves_storeOnType (concerns : World.ConcernsAttributes kept free) (name : String)
    (v : Value) (t : TypeExpr) : (storeOnType name v t).Preserves kept := by
  fun_induction storeOnType name v t
  case case1 => exact fun w holds => concerns.changed w _ holds
  case case8 inner _ open' passedOn => exact passedOn
  all_goals first | exact .pure _ | exact .throw _

/-- Storing an attribute keeps what setters keep, unless the target is an object at an
address that is not free. -/
theorem CodeKeeps.writeAttribute_of_free [Packages] {classes : ClassTable Code}
    (keeps : classes.CodeKeeps kept free) (concerns : World.ConcernsAttributes kept free)
    {target : Value} (isFree : ∀ address, target = .object address → free address)
    (name : String) (v : Value) : (classes.writeAttribute target name v).Preserves kept := by
  cases target with
  | object address =>
    exact keeps.writeAttribute concerns.toLeavesFree (isFree address rfl) name v
  | type t =>
    exact preserves_now_bind _ fun _ =>
      .ite (fun _ => .throw _) fun _ => preserves_storeOnType concerns name v t
  | _ => exact preserves_now_bind _ fun _ => .throw _

end ClassTable

end ObjectMapping
