import ObjectMapping.Class.Membership

/-!
# Copies

A shallow copy is a new object that holds the same values. A deep copy
holds copies of all that, each object being copied once, so that what was one
object stays one. Values that cannot change are not copied.

Whether a value can serve as a key decides which defaults have to be copied:
what can change cannot, and neither can what holds it.
-/

namespace ObjectMapping

/-- Which copy belongs to which object. -/
abbrev Copies := List (Nat × Nat)

/-- Copies the values of entries, in order. -/
def copyEntries {κ : Type} {m : Type → Type} [Monad m] (copy : Value → m Value)
    (entries : Entries κ Value) : m (Entries κ Value) :=
  entries.mapM fun entry => do return (entry.1, ← copy entry.2)

/-- The deep copy of a value, to a depth, given the copies that are made already. -/
def deepCopyTo : Nat → Value → StateT Copies Run Value
  | 0, v => return v
  | depth + 1, v => do
      match v with
      | .tuple items _ =>
          let copies ← items.mapM (deepCopyTo depth)
          if Value.identicalAll items copies then return v else Run.make (.tuple copies)
      | .object address =>
          match (← get).lookup address with
          | some copy => return .object copy
          | none =>
              match ← Run.object? address with
              | none => return v
              | some object => do
                  let copy := (← getThe World).heap.next
                  let made ← Run.allocate object
                  modify ((address, copy) :: ·)
                  let filled ← match object with
                    | .list items => do pure (Object.list (← items.mapM (deepCopyTo depth)))
                    | .set items => do pure (Object.set (← items.mapM (deepCopyTo depth)))
                    | .dict entries => do
                        pure (Object.dict (← entries.mapM fun entry => do
                          return (← deepCopyTo depth entry.1, ← deepCopyTo depth entry.2)))
                    | .record r => do
                        pure (Object.record { r with
                          attributes := ← copyEntries (deepCopyTo depth) r.attributes
                          apart := ← copyEntries (deepCopyTo depth) r.apart })
                  Run.replace copy filled
                  return made
      | _ => return v

/-- The depth to which values are followed. -/
def depthOf (heap : Heap) : Nat :=
  1000 + heap.next

/-- The deep copy of a value. -/
def deepCopy (v : Value) : Run Value := do
  let depth := depthOf (← get).heap
  return (← (deepCopyTo depth v).run []).1

namespace ClassTable

variable {β : Type} [Inhabited β] (classes : ClassTable β)

/-- A copy of an object that shares what the object holds. -/
def shallowCopy (v : Value) : Run Value := do
  match v with
  | .object address =>
      match ← Run.object? address with
      | some (.record r) =>
          if classes.isModel r.classId && !r.isPrepared then throw (.noAttribute "")
          Run.allocate (.record r)
      | some object => Run.allocate object
      | none => return v
  | _ => return v

/-- How instances of a class serve as keys: not at all, each by itself, or by
what they store. -/
inductive KeyRule where
  | none | itself | byStore
  deriving DecidableEq, Repr, Inhabited

/-- How instances of a class serve as keys. The first class of the line that
compares its instances by what they hold decides. -/
def keyRule (c : ClassId) : KeyRule :=
  let rules := (classes.line c).filterMap fun ancestor =>
    match ancestor.record?, ancestor.slotted?, ancestor.model? with
    | some layout, _, _ => some (if layout.isFrozen then KeyRule.byStore else .none)
    | none, some _, _ => some (if ancestor.guard?.isSome then KeyRule.byStore else .none)
    | none, none, some layout => if layout.isFrozen then some KeyRule.byStore else none
    | none, none, none =>
        if ancestor.name.id == .standard .modelBase then some KeyRule.none else none
  rules.head?.getD .itself

/-- The value can serve as a key, followed to a depth. -/
def isKeyTo : Nat → Value → Run Bool
  | 0, _ => return true
  | depth + 1, v => do
      match v with
      | .tuple items _ | .standard _ items _ => allKeys items (isKeyTo depth)
      | .object address =>
          match ← Run.object? address with
          | some (.list _) | some (.dict _) | some (.set _) => return false
          | some (.record r) =>
              match classes.keyRule r.classId with
              | .none => return false
              | .itself => return true
              | .byStore => allKeys (r.attributes.map (·.2)) (isKeyTo depth)
          | none => return true
      | _ => return true
where
  /-- All values satisfy a condition that is checked in a run. -/
  allKeys (values : List Value) (isKey : Value → Run Bool) : Run Bool :=
    values.foldlM (fun found v => if found then isKey v else return false) true

/-- The value can serve as a key. -/
def isKey (v : Value) : Run Bool := do
  let classes ← classes.now
  classes.isKeyTo (depthOf (← get).heap) v

/-- Refuses a value that cannot serve as a key. -/
def requireKey (v : Value) : Run Unit := do
  if !(← classes.isKey v) then throw .badOperand

end ClassTable

/-- The value of a default for one use. -/
def Default.create {β : Type} [Inhabited β] (classes : ClassTable β) : Default → Run Value
  | .shared v => return v
  | .copied v => deepCopy v
  | .keyOrCopied v => do if ← classes.isKey v then return v else deepCopy v

end ObjectMapping
