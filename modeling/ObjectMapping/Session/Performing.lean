import ObjectMapping.Session.Basic

/-!
# Performing steps

What each step does to the register it reads, and what it answers. A step that
makes a specification answers its summary.
-/

namespace ObjectMapping

namespace Session

variable [Packages] (classes : ClassTable Code)

/-- Leaves a specification and answers its summary. -/
def leaveSpecification (result : String) (s : Specification) : Session Answer := do
  leave result (.specification s)
  return .text s.summary

/-- Leaves a contextual specification and answers its summary. -/
def leaveContextual (result : String) (s : ContextualSpecification) : Session Answer := do
  leave result (.contextual s)
  return .text s.summary

/-- The value of an expression over the registers. -/
def evaluate (e : Expression) : Session Value := do
  let environment ← environment
  ofRun (e.evaluate classes environment)

/-- The snapshot of a value. -/
def shown (v : Value) : Session Snapshot :=
  ofRun (classes.capture v)

/-- Starts a specification. -/
def start (result : String) (target source : TypeExpr)
    (targets? : Option (List TargetProperty)) (sources? : Option (List SourceProperty))
    (customs : List Script) (factory? : Option Script) (registry : Registry) :
    Session Answer := do
  let s ← ofLogged .evaluation <|
    Specification.ofTypes (← current classes) registry target source targets? sources?
      (customs.map fun script => script.stage classes)
      (factory?.map fun script => script.factory classes)
  leaveSpecification result s

/-- Performs a step on a specification. -/
def onSpecification (result : String) (s : Specification) : Action → Session Answer
  | .ignoreTarget name => do leaveSpecification result (← ofExcept (s.ignoringTarget name))
  | .ignoreSource name => do leaveSpecification result (← ofExcept (s.ignoringSource name))
  | .custom script => leaveSpecification result (s.withCustom (script.stage classes))
  | .factory script => leaveSpecification result (s.withFactory (script.factory classes))
  | .usingContext context => leaveContextual result (s.usingContext context)
  | .thatSets name => do
      leave result (.setter (← ofExcept (s.thatSets name)))
      return .text "SetterSpec"
  | .create => do
      leave result (.mapper (← ofLogged .mapping (s.create (← current classes))))
      return .text "SimpleMapper"
  | .summary => return .text s.summary
  | .overview => return .overview s
  | .targetNamed name => do return .target (← ofExcept (s.targetNamed name))
  | .sourceNamed name => do return .source (← ofExcept (s.sourceNamed name))
  | _ => unsupported "specification"

/-- Performs a step on a contextual specification. -/
def onContextual (result : String) (s : ContextualSpecification) : Action → Session Answer
  | .ignoreTarget name => do leaveContextual result (← ofExcept (s.ignoringTarget name))
  | .ignoreSource name => do leaveContextual result (← ofExcept (s.ignoringSource name))
  | .custom script => leaveContextual result (s.withCustom (script.contextualStage classes))
  | .factory script => leaveContextual result (s.withFactory (script.factory classes))
  | .thatSets name => do
      leave result (.contextualSetter (← ofExcept (s.thatSets name)))
      return .text "ContextualSetterSpec"
  | .create => do
      leave result (.contextualMapper (← ofLogged .mapping (s.create (← current classes))))
      return .text "ContextualMapper"
  | .summary => return .text s.summary
  | .overview => return .contextualOverview s
  | _ => unsupported "contextual specification"

/-- Performs a step on a selected target property. -/
def onSetter (result : String) (setter : Setter) : Action → Session Answer
  | .fromReader script =>
      leaveSpecification result (setter.fromReader classes (script.reader classes))
  | .fromSource name => do
      leaveSpecification result (← ofExcept (setter.fromSource classes name))
  | _ => unsupported "setter"

/-- Performs a step on a target property selected with a context. -/
def onContextualSetter (result : String) (setter : ContextualSetter) :
    Action → Session Answer
  | .fromReader script =>
      leaveContextual result (setter.fromReader classes (script.contextualReader classes))
  | .fromSource name => do
      leaveContextual result (← ofExcept (setter.fromSource classes name))
  | _ => unsupported "contextual setter"

/-- Answers a mapped source, and leaves the result. -/
def answerMapped (result : String) (v : Value) : Session Answer := do
  leave result (.value v)
  return .mapped (← shown classes v)

/-- Answers a filled target, and leaves the result. -/
def answerMappedInto (result : String) (target v : Value) : Session Answer := do
  leave result (.value v)
  return .mappedInto (← shown classes v) (v.identical target) (← shown classes target)

/-- Performs a step with a mapper. Source and context are evaluated before the
target. -/
def onMapper (result : String) (mapper : Mapper) : Action → Session Answer
  | .map source _ => do
      let source ← evaluate classes source
      answerMapped classes result (← ofRun (mapper.map source))
  | .mapInto target source _ => do
      let source ← evaluate classes source
      let target ← evaluate classes target
      answerMappedInto classes result target (← ofRun (mapper.mapInto target source))
  | _ => unsupported "mapper"

/-- Performs a step with a contextual mapper. -/
def onContextualMapper (result : String) (mapper : ContextualMapper) :
    Action → Session Answer
  | .map source context => do
      let source ← evaluate classes source
      let context ← evaluate classes context
      answerMapped classes result (← ofRun (mapper.map source context))
  | .mapInto target source context => do
      let source ← evaluate classes source
      let context ← evaluate classes context
      let target ← evaluate classes target
      answerMappedInto classes result target (← ofRun (mapper.mapInto target source context))
  | _ => unsupported "contextual mapper"

/-- Performs a step on what its register holds. -/
def onRegister (step : Step) : Session Answer := do
  match ← register? step.on with
  | none => return .skipped step.on
  | some (.specification s) => onSpecification classes step.result s step.action
  | some (.contextual s) => onContextual classes step.result s step.action
  | some (.setter s) => onSetter classes step.result s step.action
  | some (.contextualSetter s) => onContextualSetter classes step.result s step.action
  | some (.mapper m) => onMapper classes step.result m step.action
  | some (.contextualMapper m) => onContextualMapper classes step.result m step.action
  | some (.value _) => unsupported "value"

/-- Performs a step. -/
def perform (step : Step) : Session Answer := do
  match step.action with
  | .start target source targets? sources? customs factory? registry =>
      start classes step.result target source targets? sources? customs factory? registry
  | .evaluate e => do
      let v ← evaluate classes e
      leave step.result (.value v)
      return .value (← shown classes v)
  | .inspect e => do
      let v ← evaluate classes e
      return .value (← shown classes v)
  | _ => onRegister classes step

/-- Performs a step and collects what it leaves to see. -/
def performStep (step : Step) : StateM SessionState Entry := do
  modify fun state =>
    { state with world := state.world.atNextStep, records := [] }
  let outcome ← (perform classes step).run
  let state ← get
  return { outcome := outcome, trace := state.world.trace, records := state.records }

/-- Performs steps one after another. -/
def performAll (initial : SessionState) (steps : List Step) : List Entry :=
  ((steps.mapM (performStep classes)).run initial).1

end Session

end ObjectMapping
