import ObjectMapping.TypeExpr.Basic

/-!
# Lines of ancestors

The line of a class lists the class and all its ancestors so that every class
stands before its own bases, and bases keep the order in which they are
declared. It is merged from the lines of the bases: the next class is always
the first head of a line that stands behind no other class anywhere.
-/

namespace ObjectMapping

/-- A class that stands behind another in one of the lines. -/
def standsBehind (lines : List (List ClassId)) (c : ClassId) : Bool :=
  lines.any fun line => (line.drop 1).contains c

/-- The next class of the merged line. -/
def nextOfLines? (lines : List (List ClassId)) : Option ClassId :=
  lines.findSome? fun line =>
    match line with
    | [] => none
    | head :: _ => if standsBehind lines head then none else some head

/-- Merges lines for at most the given number of classes. -/
def mergeLines : Nat → List (List ClassId) → List ClassId
  | 0, _ => []
  | steps + 1, lines =>
      match nextOfLines? lines with
      | none => []
      | some c => c :: mergeLines steps (lines.map fun line => line.filter (· != c))

/-- The line of a class, from its bases and their lines. -/
def linearize (c : ClassId) (bases : List ClassId) (lineOf : ClassId → List ClassId) :
    List ClassId :=
  match bases with
  | [] => [c, .standard .object]
  | _ =>
      let lines := bases.map lineOf ++ [bases]
      c :: mergeLines lines.flatten.length lines

/-- The line of a standard class. -/
def StandardClass.lineage (c : StandardClass) : List ClassId :=
  let behind : List StandardClass :=
    match c with
    | .object => []
    | .bool => [.int, .object]
    | .datetime => [.date, .object]
    | .interfaceBase => [.genericBase, .object]
    | .abstractMeta | .entityMeta | .anyMeta => [.type, .object]
    | .interfaceMeta | .modelMeta => [.abstractMeta, .type, .object]
    | .unionForm | .literalForm | .annotatedForm | .functionForm => [.appliedForm, .object]
    | .bareLiteralForm => [.bareForm, .object]
    | _ => [.object]
  (c :: behind).map .standard

/-- A standard class is a subclass of another one. -/
def StandardClass.isWithin (c ancestor : StandardClass) : Bool :=
  c.lineage.contains (.standard ancestor)

/-- The class of which a standard class is an instance. -/
def StandardClass.metaclass : StandardClass → StandardClass
  | .abstractBase => .abstractMeta
  | .interfaceBase => .interfaceMeta
  | .modelBase => .modelMeta
  | .entityBase => .entityMeta
  | _ => .type

/-- The most derived of some classes of classes. -/
def mostDerived (classes : List StandardClass) : StandardClass :=
  classes.foldl (fun found c => if c.isWithin found then c else found) .type

end ObjectMapping
