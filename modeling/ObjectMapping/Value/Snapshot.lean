import ObjectMapping.Value.Basic

/-!
# Snapshots

A value written out with everything it refers to at one moment. Later changes
of its objects do not change a snapshot.
-/

namespace ObjectMapping

/-- A value and all that it holds, detached from the heap. -/
inductive Snapshot where
  | null
  | bool (value : Bool)
  | int (value : Int)
  | float (written : String)
  | bytes (digits : String)
  | str (value : String)
  | list (items : List Snapshot)
  | tuple (items : List Snapshot)
  | dict (entries : List (Snapshot × Snapshot))
  /-- A type by its written form. -/
  | type (written : String)
  /-- An instance by the qualified name of its class, with its stored
  attributes in the order of their names. -/
  | object (className : String) (attributes : List (String × Snapshot))
  deriving Inhabited

end ObjectMapping
