import ObjectMapping.Mapping.Contextual
import ObjectMapping.Script.Evaluation

/-!
# Scripts as code of a mapping

Readers, stages and factories that are written as scripts. Each call runs the
script afresh, over variables for the things that it is called with.
-/

namespace ObjectMapping.Script

variable [Packages] (classes : ClassTable Code) (script : Script)

/-- Runs the script over named values. -/
def call (names : List String) (values : List Value) : Run Value :=
  script.run classes (names.zip values)

/-- The script as a reader of a source. -/
def reader : Reader := fun source =>
  script.call classes ["source"] [source]

/-- The script as a reader of a source and a context. -/
def contextualReader : Value → Value → Run Value := fun source context =>
  script.call classes ["source", "context"] [source, context]

/-- The script as a stage. -/
def stage : Stage := fun target source =>
  script.call classes ["target", "source"] [target, source]

/-- The script as a contextual stage. -/
def contextualStage : ContextualStage := fun target source context =>
  script.call classes ["target", "source", "context"] [target, source, context]

/-- The script as a factory. -/
def factory : Factory :=
  script.call classes [] []

/-- The script as a way to replace a property of a target. -/
def replacer : Value → String → Value → Run Value := fun target name v =>
  script.call classes ["target", "name", "value"] [target, .text name, v]

/-- The script as a way to write on a target what a reader reads. The value is read
before the script runs. -/
def setter : Reader → Stage := fun reader target source => do
  let v ← reader source
  script.call classes ["target", "source", "value"] [target, source, v]

end ObjectMapping.Script
