import EndpointCatalog.Main
import EndpointCatalog.Text.Names
import EndpointCatalog.Proofs.Ancestry
import EndpointCatalog.Proofs.Markers
import EndpointCatalog.Proofs.Resolution
import EndpointCatalog.Proofs.ControllerName
import EndpointCatalog.Proofs.Scan
import EndpointCatalog.Proofs.DottedNames
import EndpointCatalog.Proofs.Settled
import EndpointCatalog.Proofs.Intake
import EndpointCatalog.Proofs.ModuleClasses
import EndpointCatalog.Proofs.StarImports
import EndpointCatalog.Proofs.StarModule
import EndpointCatalog.Proofs.Growth
import EndpointCatalog.Proofs.Isolation
import EndpointCatalog.Proofs.ScanIsolation
import EndpointCatalog.Proofs.ImportedNames
import EndpointCatalog.Proofs.Agreement
import EndpointCatalog.Proofs.Contribution
import EndpointCatalog.Proofs.FileOrder
import EndpointCatalog.Proofs.Places
import EndpointCatalog.Proofs.Visits
import EndpointCatalog.Proofs.OverlappingRoots
import EndpointCatalog.Proofs.Computable
import EndpointCatalog.Proofs.Coverage
import EndpointCatalog.Proofs.PartsOrder
import EndpointCatalog.Proofs.UnparsableFiles
import EndpointCatalog.Proofs.Histories
import EndpointCatalog.Proofs.ScanLog
import EndpointCatalog.Proofs.WrittenStrings
import EndpointCatalog.Proofs.WrittenDocuments
import EndpointCatalog.Proofs.CollectionFields
import EndpointCatalog.Proofs.CollectionText
import EndpointCatalog.Proofs.Acceptance
import EndpointCatalog.Proofs.GeneratedCollections
import EndpointCatalog.Proofs.CollectionFiles
import EndpointCatalog.Proofs.StarChains
import EndpointCatalog.Proofs.StarPrecedence
import EndpointCatalog.Proofs.Descriptions
import EndpointCatalog.Proofs.ImportBindings
import EndpointCatalog.Proofs.InheritedVerbs
import EndpointCatalog.Proofs.MarkerArguments
import EndpointCatalog.Proofs.RelativeImports
import EndpointCatalog.Proofs.ImportSpellings
import EndpointCatalog.Proofs.DescribedTypes
import EndpointCatalog.Proofs.ClassSites
import EndpointCatalog.Proofs.DeclaredTypes
import EndpointCatalog.Proofs.ModuleConstants
import EndpointCatalog.Proofs.BaseNames
import EndpointCatalog.Proofs.GuardedImports
import EndpointCatalog.Proofs.RepeatedClasses
import EndpointCatalog.Proofs.GeneratedItems
import EndpointCatalog.Proofs.EncodedTexts
import EndpointCatalog.Proofs.DownloadedSchemas
import EndpointCatalog.Proofs.VisitedFiles
import EndpointCatalog.Proofs.EndpointListings
import EndpointCatalog.Proofs.RoutePlaceholders
import EndpointCatalog.Proofs.FloatRange
import EndpointCatalog.Proofs.LiteralValues
