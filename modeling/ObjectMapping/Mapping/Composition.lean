import ObjectMapping.Mapping.Matching

/-!
# Composing stages

Stages are applied one after another, each to the target that the one before it
left. A stage may answer anything: only an instance of the class of the target
takes the target's place, and any other answer leaves the target as it is. Some
interfaces do not tell what their instances are, and then the run fails.

The setters of matched properties run in the order of the names, custom stages
in the order in which they were given, and those that take a context last.
-/

namespace ObjectMapping

/-- A stage that also takes the context of the mapping. -/
abbrev ContextualStage := Value → Value → Value → Run Value

/-- The setters of matched properties, in the order of the target names. -/
def createSetters [Packages] (classes : ClassTable Code) (pairs : List PropertyPair) : List Stage :=
  (byName (·.target.name) pairs).map fun pair =>
    pair.target.setter classes pair.source.reader

/-- The target after a stage: the answer of the stage if it is an instance of the
class of the target, otherwise the target. -/
def keepTarget (classes : ClassTable Code) (target answer : Value) : Run Value := do
  let c ← classes.classOf target
  if ← classes.isInstance answer c then return answer else return target

/-- Runs a stage so that it always answers a target. -/
def ensuringTarget (classes : ClassTable Code) (stage : Value → Run Value) (target : Value) :
    Run Value := do
  let answer ← stage target
  keepTarget classes target answer

/-- A stage that always answers a target. -/
def Stage.returningTarget (classes : ClassTable Code) (stage : Stage) : Stage :=
  fun target source => ensuringTarget classes (fun current => stage current source) target

/-- A contextual stage that always answers a target. -/
def ContextualStage.returningTarget (classes : ClassTable Code) (stage : ContextualStage) :
    ContextualStage :=
  fun target source context =>
    ensuringTarget classes (fun current => stage current source context) target

/-- Applies stages in order; without stages the target stays as it is. -/
def compose (classes : ClassTable Code) (stages : List Stage) : Stage :=
  fun target source =>
    stages.foldlM (fun current stage => Stage.returningTarget classes stage current source) target

/-- Applies stages in order, then contextual stages in order. -/
def composeContextual (classes : ClassTable Code) (stages : List Stage)
    (contextual : List ContextualStage) : ContextualStage :=
  fun target source context => do
    let current ← compose classes stages target source
    contextual.foldlM
      (fun current stage => ContextualStage.returningTarget classes stage current source context)
      current

end ObjectMapping
