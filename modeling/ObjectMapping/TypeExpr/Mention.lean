import ObjectMapping.TypeExpr.Formation
import ObjectMapping.TypeExpr.Resolution

/-!
# What a declared type mentions

The classes that a declared type is built from, also those that its texts stand
for. A text can only be resolved where all that it mentions is known.
-/

namespace ObjectMapping

namespace TypeExpr

mutual

/-- The classes that a type mentions; nothing when a text in it stands for none. -/
def mentions? : TypeExpr → Option (List ClassId)
  | .named c => some [c.id]
  | .generic _ arguments => mentionsAll? arguments
  | .union _ members => mentionsAll? members
  | .annotated inner _ => mentions? inner
  | .initOnly _ inner => mentions? inner
  | .text _ _ meaning => mentions? meaning
  | .brokenText _ _ _ => Option.none
  | _ => some []
termination_by structural t => t

/-- The classes that some types mention. -/
def mentionsAll? : List TypeExpr → Option (List ClassId)
  | [] => some []
  | first :: rest => do
      let mentioned ← mentions? first
      return mentioned ++ (← mentionsAll? rest)

end

mutual

/-- The type is a text or holds one. -/
def holdsText : TypeExpr → Bool
  | .generic _ arguments => anyHoldsText arguments
  | .union _ members => anyHoldsText members
  | .annotated inner _ => holdsText inner
  | .initOnly _ inner => holdsText inner
  | .text _ _ _ | .brokenText _ _ _ => true
  | _ => false
termination_by structural t => t

/-- Some of the types is a text or holds one. -/
def anyHoldsText : List TypeExpr → Bool
  | [] => false
  | first :: rest => holdsText first || anyHoldsText rest

end

end TypeExpr

/-- The class is a standard one or among the first declared ones. -/
def ClassId.isAmongFirst (count : Nat) : ClassId → Bool
  | .standard _ => true
  | .declared index => index < count

/-! ## Fields of models -/

namespace TypeExpr

/-- Every text of the type can be resolved while the first classes are known. -/
def isResolvableAmong (count : Nat) (t : TypeExpr) : Bool :=
  !t.holdsText || (t.mentions?.any fun mentioned => mentioned.all (·.isAmongFirst count))

/-- The type of a field of a model: without annotations, and final or not. -/
def fieldCore : TypeExpr → TypeExpr × Bool
  | .annotated inner _ => fieldCore inner
  | .generic (.qualifier .final) [inner] => ((fieldCore inner).1, true)
  | .form .final => (.any, true)
  | t => (t, false)

/-- The type declares a final member. -/
def isFinal : TypeExpr → Bool
  | .annotated inner _ => isFinal inner
  | .form .final | .generic (.qualifier .final) _ => true
  | _ => false

/-- A declared type with texts resolved as far as they can be. -/
def withResolvedTexts (declared : TypeExpr) : TypeExpr :=
  match declared.resolved true with
  | .ok t => t
  | .error _ => declared.asArgument

end TypeExpr

end ObjectMapping
