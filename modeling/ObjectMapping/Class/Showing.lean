import ObjectMapping.Class.Copying
import ObjectMapping.TypeExpr.Printer

/-!
# Showing values

The snapshot of a value. An instance shows what it stores, in the order of the
names, without what is stored apart. The depth of a snapshot is bounded, so that
a value that holds itself has one too.
-/

namespace ObjectMapping

/-- Attributes in the order of their names. -/
def inNameOrder (attributes : Entries String Value) : Entries String Value :=
  attributes.mergeSort fun left right => decide (left.1 ≤ right.1)

/-- What a unique identifier shows of its safety: nothing is known. -/
def unknownSafety : Snapshot :=
  .object "SafeUUID"
    [("__objclass__", .type "SafeUUID"), ("_name_", .str "unknown"), ("_sort_order_", .int 2),
     ("_value_", .null)]

namespace ClassTable

variable {β : Type} [Inhabited β]

/-- The mapped lists that are kept apart and are no longer empty. -/
def filledCollections (classes : ClassTable β) (heap : Heap) (r : Instance) :
    Entries String Value :=
  r.apart.filter fun entry =>
    match classes.member? r.classId entry.1, entry.2 with
    | some .collection, .object address =>
        match heap.get? address with
        | some (.list items) => !items.isEmpty
        | _ => false
    | _, _ => false

/-- The attributes that an instance shows. -/
def shownAttributes (classes : ClassTable β) (heap : Heap) (r : Instance) :
    Entries String Value :=
  inNameOrder (Entries.mergeAbsent r.attributes (classes.filledCollections heap r))

/-- The snapshot of a value, to the given depth. -/
def snapshotTo (classes : ClassTable β) (heap : Heap) : Nat → Value → Snapshot
  | 0, _ => .null
  | _ + 1, .null => .null
  | _ + 1, .bool value => .bool value
  | _ + 1, .int value _ => .int value
  | _ + 1, .float value _ => .float value.written
  | _ + 1, .bytes digits _ => .bytes digits
  | _ + 1, .str value _ => .str value
  | depth + 1, .tuple items _ => .tuple (items.map (snapshotTo classes heap depth))
  | _ + 1, .type t _ => .type t.written
  | depth + 1, .standard .uuid parts _ =>
      .object StandardClass.uuid.className.qualname
        (["int"].zip (parts.map (snapshotTo classes heap depth)) ++ [("is_safe", unknownSafety)])
  | _ + 1, .standard c _ _ => .object c.className.qualname []
  | _ + 1, .member kind _ _ => .object kind.className.qualname []
  | depth + 1, .object address =>
      match heap.get? address with
      | some (.list items) => .list (items.map (snapshotTo classes heap depth))
      | some (.dict entries) =>
          .dict (entries.map fun entry =>
            (snapshotTo classes heap depth entry.1, snapshotTo classes heap depth entry.2))
      | some (.set _) => .object StandardClass.set.className.qualname []
      | some (.record r) =>
          .object (classes.info r.classId).name.qualname
            ((classes.shownAttributes heap r).map fun entry =>
              (entry.1, snapshotTo classes heap depth entry.2))
      | none => .null

/-- The snapshot of a value. -/
def snapshot (classes : ClassTable β) (heap : Heap) (v : Value) : Snapshot :=
  snapshotTo classes heap (depthOf heap) v

/-- The snapshot of a value at this point of a run. -/
def capture (classes : ClassTable β) (v : Value) : Run Snapshot := do
  return classes.snapshot (← get).heap v

end ClassTable

end ObjectMapping
