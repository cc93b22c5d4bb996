import Mathlib.Data.List.Forall2
import ObjectMapping.Proofs.Value.Effect

/-!
# Values of two heaps that are alike

Two runs from one world make objects of their own, at addresses of their own. What
they make can still be the same in all that it holds. `Heap.Alike` says so: plain
values are equal, and objects are of one kind and class and hold values that are alike
again. Which objects belong together is a relation on addresses; that related objects
hold related values is all that is asked of it (`Heap.Matches`), so objects may
well hold each other.

A value of a world is like itself in all worlds that have come about since then
without a change of its objects (`Heap.Closed.alike_self`).
-/

namespace ObjectMapping

namespace Value

mutual

/-- The addresses of the objects to which a value refers, in order. -/
def addresses : Value → List Nat
  | .tuple items _ => addressesAll items
  | .standard _ parts _ => addressesAll parts
  | .object address => [address]
  | _ => []
termination_by structural v => v

/-- The addresses to which values refer, in order. -/
def addressesAll : List Value → List Nat
  | [] => []
  | first :: rest => addresses first ++ addressesAll rest

end

mutual

/-- The value without what tells its makings and its objects apart. -/
def shape : Value → Value
  | .int value _ => .int value .shared
  | .float value _ => .float value .shared
  | .bytes digits _ => .bytes digits .shared
  | .str value _ => .str value .shared
  | .tuple items _ => .tuple (shapeAll items) .shared
  | .type t _ => .type t .shared
  | .standard c parts _ => .standard c (shapeAll parts) .shared
  | .object _ => .object 0
  | v => v
termination_by structural v => v

/-- The shapes of values. -/
def shapeAll : List Value → List Value
  | [] => []
  | first :: rest => shape first :: shapeAll rest

end

theorem addressesAll_eq (items : List Value) : addressesAll items = items.flatMap addresses := by
  induction items with
  | nil => rfl
  | cons first rest ih => rw [addressesAll, ih, List.flatMap_cons]

theorem shapeAll_eq (items : List Value) : shapeAll items = items.map shape := by
  induction items with
  | nil => rfl
  | cons first rest ih => rw [shapeAll, ih, List.map_cons]

/-- Two values are equal but for their objects, which are related place by place. -/
structure AlikeBy (related : Nat → Nat → Prop) (v v' : Value) : Prop where
  shape : v.shape = v'.shape
  addresses : List.Forall₂ related v.addresses v'.addresses

/-- The value refers to addresses below a bound only. -/
def Within (bound : Nat) (v : Value) : Prop :=
  ∀ address ∈ v.addresses, address < bound

/-- Values without objects are below every bound. -/
theorem within_of_plain {v : Value} {bound : Nat} (plain : v.addresses = []) : v.Within bound := by
  simp [Within, plain]

end Value

/-- Attributes of the same names have values that are alike. -/
def Entries.AlikeBy (related : Nat → Nat → Prop) (entries entries' : Entries String Value) : Prop :=
  ∀ name, Option.Rel (Value.AlikeBy related) (entries.get? name) (entries'.get? name)

/-- Two instances of a class hold values that are alike. -/
structure Instance.AlikeBy (related : Nat → Nat → Prop) (r r' : Instance) : Prop where
  classId : r.classId = r'.classId
  attributes : r.attributes.AlikeBy related r'.attributes
  apart : r.apart.AlikeBy related r'.apart
  isPrepared : r.isPrepared = r'.isPrepared

/-- Two objects of a kind hold values that are alike. -/
inductive Object.AlikeBy (related : Nat → Nat → Prop) : Object → Object → Prop where
  | list {items items'} (each : List.Forall₂ (Value.AlikeBy related) items items') :
      AlikeBy related (.list items) (.list items')
  | set {items items'} (each : List.Forall₂ (Value.AlikeBy related) items items') :
      AlikeBy related (.set items) (.set items')
  | dict {entries entries' : Entries Value Value}
      (each : List.Forall₂ (fun entry entry' =>
        entry.1.AlikeBy related entry'.1 ∧ entry.2.AlikeBy related entry'.2) entries entries') :
      AlikeBy related (.dict entries) (.dict entries')
  | record {r r'} (each : r.AlikeBy related r') : AlikeBy related (.record r) (.record r')

/-- The values that an object holds. -/
def Object.values : Object → List Value
  | .list items | .set items => items
  | .dict entries => entries.map (·.1) ++ entries.map (·.2)
  | .record r => r.attributes.map (·.2) ++ r.apart.map (·.2)

/-- Related objects are there in both heaps and are alike. -/
def Heap.Matches (heap heap' : Heap) (related : Nat → Nat → Prop) : Prop :=
  ∀ address address', related address address' →
    ∃ object object', heap.get? address = some object ∧ heap'.get? address' = some object' ∧
      object.AlikeBy related object'

/-- A value of one heap is like a value of another one. -/
def Heap.Alike (heap heap' : Heap) (v v' : Value) : Prop :=
  ∃ related, heap.Matches heap' related ∧ v.AlikeBy related v'

/-- Objects refer to objects that have been made. -/
def Heap.Closed (heap : Heap) : Prop :=
  ∀ address object, heap.get? address = some object → ∀ v ∈ object.values, v.Within heap.next

/-! ## One relation of objects -/

section Related

variable {related later : Nat → Nat → Prop}

namespace Value.AlikeBy

theorem mono (implies : ∀ a b, related a b → later a b) {v v' : Value}
    (alike : v.AlikeBy related v') : v.AlikeBy later v' :=
  ⟨alike.shape, alike.addresses.imp implies⟩

/-- A value is like itself if its objects are. -/
theorem self {v : Value} (each : ∀ address ∈ v.addresses, related address address) :
    v.AlikeBy related v :=
  ⟨rfl, List.forall₂_same.mpr each⟩

theorem symm {v v' : Value} (alike : v.AlikeBy related v') :
    v'.AlikeBy (fun a b => related b a) v :=
  ⟨alike.shape.symm, alike.addresses.flip⟩

/-- What is like a value that is like a third one is like it. -/
theorem trans {v v' v'' : Value} (first : v.AlikeBy related v') (second : v'.AlikeBy later v'') :
    v.AlikeBy (fun a c => ∃ b, related a b ∧ later b c) v'' := by
  refine ⟨first.shape.trans second.shape, ?_⟩
  have left := first.addresses
  have right := second.addresses
  generalize v.addresses = as at left
  generalize v'.addresses = bs at left right
  generalize v''.addresses = cs at right
  induction left generalizing cs with
  | nil =>
    cases right
    exact .nil
  | cons head _ ih =>
    cases right with
    | cons head' rest' => exact .cons ⟨_, head, head'⟩ (ih _ rest')

theorem object {address address' : Nat} (isRelated : related address address') :
    (Value.object address).AlikeBy related (.object address') :=
  ⟨rfl, .cons isRelated .nil⟩

theorem tuple {items items' : List Value} {making making' : Making}
    (each : List.Forall₂ (Value.AlikeBy related) items items') :
    (Value.tuple items making).AlikeBy related (.tuple items' making') := by
  constructor
  · simp only [Value.shape, shapeAll_eq]
    congr 1
    induction each with
    | nil => rfl
    | cons first _ ih => rw [List.map_cons, List.map_cons, first.shape, ih]
  · simp only [Value.addresses, addressesAll_eq]
    induction each with
    | nil => exact .nil
    | cons first _ ih => exact List.rel_append first.addresses ih

end Value.AlikeBy

/-- What is said of related options holds under weaker relations. -/
theorem optionRel_mono {α β : Type} {first second : α → β → Prop}
    (implies : ∀ a b, first a b → second a b) {a? : Option α} {b? : Option β}
    (rel : Option.Rel first a? b?) : Option.Rel second a? b? := by
  cases rel with
  | some both => exact .some (implies _ _ both)
  | none => exact .none

theorem optionRel_symm {α β : Type} {relation : α → β → Prop} {a? : Option α} {b? : Option β}
    (rel : Option.Rel relation a? b?) : Option.Rel (fun b a => relation a b) b? a? := by
  cases rel with
  | some both => exact .some both
  | none => exact .none

theorem optionRel_trans {α β γ : Type} {first : α → β → Prop} {second : β → γ → Prop}
    {third : α → γ → Prop} (implies : ∀ a b c, first a b → second b c → third a c)
    {a? : Option α} {b? : Option β} {c? : Option γ} (rel : Option.Rel first a? b?)
    (rel' : Option.Rel second b? c?) : Option.Rel third a? c? := by
  cases rel with
  | some both =>
    cases rel' with
    | some both' => exact .some (implies _ _ _ both both')
  | none =>
    cases rel' with
    | none => exact .none

namespace Entries.AlikeBy

/-- Attributes that are alike one by one, under the same names, are alike. -/
theorem of_forall₂ {entries entries' : Entries String Value}
    (each : List.Forall₂ (fun entry entry' => entry.1 = entry'.1 ∧ entry.2.AlikeBy related entry'.2)
      entries entries') : entries.AlikeBy related entries' := by
  intro name
  induction each with
  | nil => exact .none
  | @cons entry entry' _ _ first _ ih =>
    obtain ⟨name', v⟩ := entry
    obtain ⟨name'', v'⟩ := entry'
    obtain ⟨rfl, alike⟩ := first
    by_cases same : name' = name
    · simpa [Entries.get?, same] using Option.Rel.some alike
    · simpa [Entries.get?, same] using ih

variable {entries entries' entries'' : Entries String Value}

theorem mono (implies : ∀ a b, related a b → later a b) (alike : entries.AlikeBy related entries') :
    entries.AlikeBy later entries' :=
  fun name => optionRel_mono (fun _ _ => Value.AlikeBy.mono implies) (alike name)

theorem symm (alike : entries.AlikeBy related entries') :
    entries'.AlikeBy (fun a b => related b a) entries :=
  fun name => optionRel_mono (fun _ _ => Value.AlikeBy.symm) (optionRel_symm (alike name))

theorem trans (first : entries.AlikeBy related entries')
    (second : entries'.AlikeBy later entries'') :
    entries.AlikeBy (fun a c => ∃ b, related a b ∧ later b c) entries'' :=
  fun name => optionRel_trans (fun _ _ _ => Value.AlikeBy.trans) (first name) (second name)

end Entries.AlikeBy

/-- Lists that are alike place by place stay so under weaker relations. -/
theorem Object.AlikeBy.mono (implies : ∀ a b, related a b → later a b) {object object' : Object}
    (alike : object.AlikeBy related object') : object.AlikeBy later object' := by
  cases alike with
  | list each => exact .list (each.imp fun _ _ => Value.AlikeBy.mono implies)
  | set each => exact .set (each.imp fun _ _ => Value.AlikeBy.mono implies)
  | dict each =>
    exact .dict (each.imp fun _ _ both => ⟨both.1.mono implies, both.2.mono implies⟩)
  | record each =>
    exact .record ⟨each.classId, each.attributes.mono implies, each.apart.mono implies,
      each.isPrepared⟩

theorem Object.AlikeBy.symm {object object' : Object} (alike : object.AlikeBy related object') :
    object'.AlikeBy (fun a b => related b a) object := by
  cases alike with
  | list each => exact .list (each.imp fun _ _ => Value.AlikeBy.symm).flip
  | set each => exact .set (each.imp fun _ _ => Value.AlikeBy.symm).flip
  | dict each => exact .dict (each.imp fun _ _ both => ⟨both.1.symm, both.2.symm⟩).flip
  | record each =>
    exact .record ⟨each.classId.symm, each.attributes.symm, each.apart.symm, each.isPrepared.symm⟩

/-- Lists that are alike place by place are so to the lists that the second are like. -/
theorem forall₂_trans {α β γ : Type} {first : α → β → Prop} {second : β → γ → Prop}
    {third : α → γ → Prop} (implies : ∀ a b c, first a b → second b c → third a c) {as : List α}
    {bs : List β} {cs : List γ} (left : List.Forall₂ first as bs)
    (right : List.Forall₂ second bs cs) : List.Forall₂ third as cs := by
  induction left generalizing cs with
  | nil =>
    cases right
    exact .nil
  | cons head _ ih =>
    cases right with
    | cons head' rest' => exact .cons (implies _ _ _ head head') (ih rest')

theorem Object.AlikeBy.trans {object object' object'' : Object}
    (first : object.AlikeBy related object') (second : object'.AlikeBy later object'') :
    object.AlikeBy (fun a c => ∃ b, related a b ∧ later b c) object'' := by
  cases first with
  | list each =>
    cases second with
    | list each' => exact .list (forall₂_trans (fun _ _ _ => Value.AlikeBy.trans) each each')
  | set each =>
    cases second with
    | set each' => exact .set (forall₂_trans (fun _ _ _ => Value.AlikeBy.trans) each each')
  | dict each =>
    cases second with
    | dict each' =>
      refine .dict (forall₂_trans (fun _ _ _ one two => ?_) each each')
      exact ⟨one.1.trans two.1, one.2.trans two.2⟩
  | record each =>
    cases second with
    | record each' =>
      exact .record ⟨each.classId.trans each'.classId, each.attributes.trans each'.attributes,
        each.apart.trans each'.apart, each.isPrepared.trans each'.isPrepared⟩

/-- An object is like itself if all objects to which it refers are. -/
theorem Object.AlikeBy.self {object : Object}
    (each : ∀ v ∈ object.values, ∀ address ∈ v.addresses, related address address) :
    object.AlikeBy related object := by
  have alike : ∀ v ∈ object.values, v.AlikeBy related v := fun v mem => .self (each v mem)
  have entries {entries : Entries String Value}
      (listed : ∀ entry ∈ entries, entry.2 ∈ object.values) :
      entries.AlikeBy related entries := by
    refine .of_forall₂ (List.forall₂_same.mpr fun entry mem => ?_)
    exact ⟨rfl, alike _ (listed entry mem)⟩
  cases object with
  | list items => exact .list (List.forall₂_same.mpr alike)
  | set items => exact .set (List.forall₂_same.mpr alike)
  | dict pairs =>
    refine .dict (List.forall₂_same.mpr fun entry mem => ⟨alike _ ?_, alike _ ?_⟩)
    · exact List.mem_append_left _ (List.mem_map_of_mem mem)
    · exact List.mem_append_right _ (List.mem_map_of_mem mem)
  | record r =>
    refine .record ⟨rfl, entries fun entry mem => ?_, entries fun entry mem => ?_, rfl⟩
    · exact List.mem_append_left _ (List.mem_map_of_mem mem)
    · exact List.mem_append_right _ (List.mem_map_of_mem mem)

end Related

/-! ## Values of two heaps -/

namespace Heap

variable {heap heap' heap'' : Heap} {v v' v'' : Value}

/-- Objects stay alike as long as none of them changes. -/
theorem Matches.later {related : Nat → Nat → Prop} {touched touched' : List Nat}
    {w₁ w₁' w₂ w₂' : World} (isMatched : w₁.heap.Matches w₂.heap related)
    (kept : w₁.Keeps touched w₁') (kept' : w₂.Keeps touched' w₂')
    (untouched : ∀ a b, related a b → a ∉ touched ∧ b ∉ touched') :
    w₁'.heap.Matches w₂'.heap related := by
  intro a b isRelated
  obtain ⟨object, object', found, found', objects⟩ := isMatched a b isRelated
  obtain ⟨first, second⟩ := untouched a b isRelated
  refine ⟨object, object', ?_, ?_, objects⟩
  · rw [kept.others a (lt_next_of_get?_eq_some found) first, found]
  · rw [kept'.others b (lt_next_of_get?_eq_some found') second, found']

theorem Matches.symm {related : Nat → Nat → Prop} (isMatched : heap.Matches heap' related) :
    heap'.Matches heap fun a b => related b a := by
  intro a b isRelated
  obtain ⟨object, object', found, found', objects⟩ := isMatched b a isRelated
  exact ⟨object', object, found', found, objects.symm⟩

theorem Matches.trans {related later : Nat → Nat → Prop} (first : heap.Matches heap' related)
    (second : heap'.Matches heap'' later) :
    heap.Matches heap'' fun a c => ∃ b, related a b ∧ later b c := by
  rintro a c ⟨b, isFirst, isSecond⟩
  obtain ⟨object, middle, found, foundMiddle, objects⟩ := first a b isFirst
  obtain ⟨middle', object', foundMiddle', found', objects'⟩ := second b c isSecond
  obtain rfl : middle = middle' := Option.some.inj (foundMiddle.symm.trans foundMiddle')
  exact ⟨object, object', found, found', objects.trans objects'⟩

namespace Alike

theorem symm (alike : heap.Alike heap' v v') : heap'.Alike heap v' v := by
  obtain ⟨related, isMatched, values⟩ := alike
  exact ⟨_, isMatched.symm, values.symm⟩

theorem trans (first : heap.Alike heap' v v') (second : heap'.Alike heap'' v' v'') :
    heap.Alike heap'' v v'' := by
  obtain ⟨related, isMatched, values⟩ := first
  obtain ⟨later, isMatched', values'⟩ := second
  exact ⟨_, isMatched.trans isMatched', values.trans values'⟩

/-- Values stay alike where no object changes. -/
theorem later {w₁ w₁' w₂ w₂' : World} (alike : w₁.heap.Alike w₂.heap v v')
    (kept : w₁.Keeps [] w₁') (kept' : w₂.Keeps [] w₂') : w₁'.heap.Alike w₂'.heap v v' := by
  obtain ⟨related, isMatched, values⟩ := alike
  refine ⟨related, isMatched.later kept kept' fun _ _ _ => ?_, values⟩
  exact ⟨List.not_mem_nil, List.not_mem_nil⟩

end Alike

/-! ## While an object is being filled -/

/-- Values are alike by other objects than two that are still being filled. -/
def AlikeBeside (heap heap' : Heap) (own own' : Nat) (v v' : Value) : Prop :=
  ∃ related, heap.Matches heap' related ∧ v.AlikeBy related v' ∧
    ∀ address address', related address address' → address ≠ own ∧ address' ≠ own'

namespace AlikeBeside

variable {own own' : Nat}

theorem alike (beside : heap.AlikeBeside heap' own own' v v') : heap.Alike heap' v v' := by
  obtain ⟨related, isMatched, values, -⟩ := beside
  exact ⟨related, isMatched, values⟩

/-- What is filled does not matter. -/
theorem later {w₁ w₁' w₂ w₂' : World} (beside : w₁.heap.AlikeBeside w₂.heap own own' v v')
    (kept : w₁.Keeps [own] w₁') (kept' : w₂.Keeps [own'] w₂') :
    w₁'.heap.AlikeBeside w₂'.heap own own' v v' := by
  obtain ⟨related, isMatched, values, others⟩ := beside
  refine ⟨related, isMatched.later kept kept' fun a b isRelated => ?_, values, others⟩
  obtain ⟨notOwn, notOwn'⟩ := others a b isRelated
  exact ⟨by simpa using notOwn, by simpa using notOwn'⟩

end AlikeBeside

/-- Values that are alike do not refer to objects that are still to be made. -/
theorem Alike.beside {own own' : Nat} (alike : heap.Alike heap' v v') (older : heap.next ≤ own)
    (older' : heap'.next ≤ own') : heap.AlikeBeside heap' own own' v v' := by
  obtain ⟨related, isMatched, values⟩ := alike
  refine ⟨related, isMatched, values, fun a b isRelated => ?_⟩
  obtain ⟨object, object', found, found', -⟩ := isMatched a b isRelated
  have made := lt_next_of_get?_eq_some found
  have made' := lt_next_of_get?_eq_some found'
  constructor <;> omega

/-- Objects at two addresses are alike. -/
def Related (heap heap' : Heap) (address address' : Nat) : Prop :=
  heap.Alike heap' (.object address) (.object address')

/-- Being alike is the widest relation that matches objects. -/
theorem alike_iff : heap.Alike heap' v v' ↔ v.AlikeBy (heap.Related heap') v' := by
  have widest {related : Nat → Nat → Prop} (isMatched : heap.Matches heap' related) (a b : Nat)
      (isRelated : related a b) : heap.Related heap' a b :=
    ⟨related, isMatched, .object isRelated⟩
  constructor
  · rintro ⟨related, isMatched, values⟩
    exact values.mono (widest isMatched)
  · intro values
    refine ⟨heap.Related heap', ?_, values⟩
    rintro address address' ⟨related, isMatched, ⟨-, addresses⟩⟩
    obtain ⟨isRelated, -⟩ := List.forall₂_cons.mp addresses
    obtain ⟨object, object', found, found', objects⟩ := isMatched _ _ isRelated
    exact ⟨object, object', found, found', objects.mono (widest isMatched)⟩

/-- Objects that hold values that are alike are alike. -/
theorem Alike.object {address address' : Nat} {object object' : Object}
    (found : heap.get? address = some object) (found' : heap'.get? address' = some object')
    (objects : object.AlikeBy (heap.Related heap') object') :
    heap.Alike heap' (.object address) (.object address') := by
  let related (a b : Nat) : Prop := heap.Related heap' a b ∨ (a = address ∧ b = address')
  have wider (a b : Nat) (isRelated : heap.Related heap' a b) : related a b := .inl isRelated
  refine ⟨related, ?_, .object (.inr ⟨rfl, rfl⟩)⟩
  rintro a b (⟨inner, isMatched, ⟨-, addresses⟩⟩ | ⟨rfl, rfl⟩)
  · obtain ⟨isRelated, -⟩ := List.forall₂_cons.mp addresses
    obtain ⟨o, o', foundInner, foundInner', inside⟩ := isMatched _ _ isRelated
    refine ⟨o, o', foundInner, foundInner', inside.mono fun c d isInner => .inl ?_⟩
    exact ⟨inner, isMatched, .object isInner⟩
  · exact ⟨object, object', found, found', objects.mono wider⟩

/-- The values that alike objects hold are alike. -/
theorem Alike.exists_object {address address' : Nat}
    (alike : heap.Alike heap' (.object address) (.object address')) :
    ∃ object object', heap.get? address = some object ∧ heap'.get? address' = some object' ∧
      object.AlikeBy (heap.Related heap') object' := by
  obtain ⟨related, isMatched, ⟨-, addresses⟩⟩ := alike
  obtain ⟨isRelated, -⟩ := List.forall₂_cons.mp addresses
  obtain ⟨object, object', found, found', objects⟩ := isMatched _ _ isRelated
  exact ⟨object, object', found, found', objects.mono fun a b isInner =>
    ⟨related, isMatched, .object isInner⟩⟩

/-- The objects of a world are like themselves in all worlds that keep them. -/
theorem Closed.matches_self {w w₁ w₂ : World} (closed : w.heap.Closed) (kept : w.Keeps [] w₁)
    (kept' : w.Keeps [] w₂) :
    w₁.heap.Matches w₂.heap fun a b => a = b ∧ a < w.heap.next := by
  rintro address _ ⟨rfl, old⟩
  obtain ⟨object, found⟩ : ∃ object, w.heap.get? address = some object :=
    ⟨_, Array.getElem?_eq_getElem old⟩
  refine ⟨object, object, kept.found found, kept'.found found, .self ?_⟩
  intro v mem inner isInner
  exact ⟨rfl, closed address object found v mem inner isInner⟩

/-- A value of a world is like itself in all worlds that keep its objects. -/
theorem Closed.alike_self {w w₁ w₂ : World} (closed : w.heap.Closed) (kept : w.Keeps [] w₁)
    (kept' : w.Keeps [] w₂) (within : v.Within w.heap.next) : w₁.heap.Alike w₂.heap v v :=
  ⟨_, closed.matches_self kept kept', .self fun address mem => ⟨rfl, within address mem⟩⟩

end Heap

end ObjectMapping
