import ObjectMapping.Collection.Entries
import ObjectMapping.Value.Basic

/-!
# The heap

All objects that can change, each at the address at which it was allocated.
Objects are never freed, so an address stays valid and its object keeps its
class and kind.
-/

namespace ObjectMapping

/-- An instance of a class. -/
structure Instance where
  classId : ClassId
  /-- The stored attributes. -/
  attributes : Entries String Value := []
  /-- What is stored apart from the attributes and not shown with them. -/
  apart : Entries String Value := []
  /-- The way of filling instances that belongs to the kind of the class has run. -/
  isPrepared : Bool := false
  deriving Inhabited

/-- An object that can change. -/
inductive Object where
  | list (items : List Value)
  | dict (entries : Entries Value Value)
  | set (items : List Value)
  | record (instanceOf : Instance)
  deriving Inhabited

/-- The objects by address. -/
structure Heap where
  objects : Array Object := #[]
  deriving Inhabited

namespace Heap

/-- The object at an address. -/
def get? (heap : Heap) (address : Nat) : Option Object :=
  heap.objects[address]?

/-- The address that the next object gets. -/
def next (heap : Heap) : Nat :=
  heap.objects.size

/-- The heap with one more object, at the next address. -/
def allocate (heap : Heap) (object : Object) : Heap :=
  ⟨heap.objects.push object⟩

/-- The heap with the object at an address replaced. -/
def set (heap : Heap) (address : Nat) (object : Object) : Heap :=
  ⟨heap.objects.setIfInBounds address object⟩

/-- Objects are found below the next address only. -/
theorem lt_next_of_get?_eq_some {heap : Heap} {address : Nat} {object : Object}
    (found : heap.get? address = some object) : address < heap.next :=
  (Array.getElem?_eq_some_iff.mp found).1

/-- A new object is found at its address. -/
@[simp] theorem get?_allocate_next (heap : Heap) (object : Object) :
    (heap.allocate object).get? heap.next = some object := by
  simp [get?, allocate, next]

@[simp] theorem next_allocate (heap : Heap) (object : Object) :
    (heap.allocate object).next = heap.next + 1 := by
  simp [next, allocate]

/-- A new object changes none of the objects before it. -/
theorem get?_allocate_of_lt {heap : Heap} {address : Nat} (object : Object)
    (old : address < heap.next) : (heap.allocate object).get? address = heap.get? address := by
  simp only [get?, allocate, next] at *
  rw [Array.getElem?_push]
  split
  · omega
  · rfl

/-- A replaced object is found at its address. -/
theorem get?_set_self {heap : Heap} {address : Nat} (object : Object)
    (old : address < heap.next) : (heap.set address object).get? address = some object := by
  simp only [get?, set, next] at *
  simp [old]

/-- Replacing an object changes no object at another address. -/
theorem get?_set_ne {heap : Heap} {address other : Nat} (object : Object)
    (apart : address ≠ other) : (heap.set address object).get? other = heap.get? other := by
  simp only [get?, set]
  exact Array.getElem?_setIfInBounds_ne apart

/-- Replacing an object allocates none. -/
@[simp] theorem next_set (heap : Heap) (address : Nat) (object : Object) :
    (heap.set address object).next = heap.next := by
  simp [next, set]

end Heap

end ObjectMapping
