import ObjectMapping.Package.Mapped
import ObjectMapping.Package.Model

/-!
# The packages of a program that runs

The packages with which programs run and are tested: models, slotted classes and
entities as the other modules of this folder describe them.
-/

namespace ObjectMapping

namespace RuntimePackages

/-- The packages of programs. They are taken where `RuntimePackages` is open. -/
scoped instance runtime : Packages where
  readFact := readModelFact
  readColumn := readMapped
  readCollection := readMappedList
  readAgain := readModelAgain
  storeColumn := ClassTable.putAttribute
  storeCollection := ClassTable.putMappedList
  storeModel := ClassTable.storeModel
  storeFrozen := SlottedLayout.storeFrozen
  copyModel := ClassTable.copyModel
  fillModel := ClassTable.fillModel
  fillSlotted := SlottedLayout.fill
  fillEntity := fun classes c given store => classes.fillMapped c store given
  makeRecord := ClassTable.recordFrom
  modelParameters := ClassTable.modelParameters
  slottedParameters := SlottedLayout.parameters
  entityParameters := namedParameters

end RuntimePackages

end ObjectMapping
