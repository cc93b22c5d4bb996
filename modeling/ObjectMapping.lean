import ObjectMapping.Collection.Keys
import ObjectMapping.Declaration.Declaring
import ObjectMapping.Session.Hints
import ObjectMapping.Session.Performing
import ObjectMapping.Proofs.Collection.Grouping
import ObjectMapping.Proofs.Mapping.Matching
import ObjectMapping.Proofs.Mapping.Creation
import ObjectMapping.Proofs.Mapping.Building
import ObjectMapping.Proofs.Mapping.DeclarationOrder
import ObjectMapping.Proofs.Mapping.ContextualAgreement
import ObjectMapping.Proofs.Mapping.Construction
import ObjectMapping.Proofs.Mapping.Retrying
import ObjectMapping.Proofs.Mapping.Accounting
import ObjectMapping.Proofs.Value.Effect
import ObjectMapping.Proofs.Class.PlainStorage
import ObjectMapping.Proofs.Mapping.Population
import ObjectMapping.Proofs.Mapping.Renaming
import ObjectMapping.Proofs.Class.Refusal
import ObjectMapping.Proofs.Mapping.Course
import ObjectMapping.Proofs.Mapping.Answers
import ObjectMapping.Proofs.Mapping.InPlace
import ObjectMapping.Proofs.Mapping.OneReplacement
import ObjectMapping.Proofs.Discovery.Interfaces
import ObjectMapping.Proofs.Discovery.Sides
import ObjectMapping.Proofs.Discovery.GetterTypes
import ObjectMapping.Proofs.Class.Taking
import ObjectMapping.Proofs.Class.CallingAgain
import ObjectMapping.Proofs.Discovery.Writing
import ObjectMapping.Proofs.Declaration.DistinctNames
import ObjectMapping.Proofs.Mapping.TargetRefinement
import ObjectMapping.Proofs.Discovery.DistinctNames
import ObjectMapping.Proofs.Mapping.SeparateCalls
import ObjectMapping.Proofs.Discovery.Tolerance
import ObjectMapping.Proofs.Discovery.ClassLevel
import ObjectMapping.Proofs.Discovery.Overriding
import ObjectMapping.Proofs.Mapping.Removal
import ObjectMapping.Proofs.Mapping.Commuting
import ObjectMapping.Proofs.Mapping.ReadingBack
import ObjectMapping.Proofs.Mapping.ReplacementLaws
import ObjectMapping.Proofs.TypeExpr.Wrappers
import ObjectMapping.Proofs.TypeExpr.Respelling
import ObjectMapping.Proofs.Collection.LeastDuplicate
import ObjectMapping.Proofs.Discovery.Hierarchy
