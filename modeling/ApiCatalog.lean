import ApiCatalog.Main
import ApiCatalog.Proofs.CatalogText
import ApiCatalog.Proofs.DefinitionOrder
import ApiCatalog.Proofs.GenericNames
import ApiCatalog.Proofs.Imports
import ApiCatalog.Proofs.PlainNames
import ApiCatalog.Proofs.ReferenceLoops
import ApiCatalog.Proofs.RoundTrip
import ApiCatalog.Proofs.RenderedLeaves
import ApiCatalog.Proofs.StandardPointers
import ApiCatalog.Proofs.TypeBars
import ApiCatalog.Proofs.ArraySuffix
import ApiCatalog.Proofs.LiteralLists
import ApiCatalog.Proofs.SymbolNames
import ApiCatalog.Proofs.MemberKeys
import ApiCatalog.Proofs.TypeBases
import ApiCatalog.Proofs.ItemChecks
import ApiCatalog.Proofs.ConstantNames
import ApiCatalog.Proofs.CodeListings
import ApiCatalog.Proofs.CommentCodes
import ApiCatalog.Proofs.Precedence
import ApiCatalog.Proofs.PathNames
import ApiCatalog.Proofs.CommentLines
import ApiCatalog.Proofs.LeadingValues
import ApiCatalog.Proofs.MemberOrder
import ApiCatalog.Proofs.OperationListing
import ApiCatalog.Proofs.Presentation
import ApiCatalog.Proofs.ImportedNames
import ApiCatalog.Proofs.WordCuts
import ApiCatalog.Proofs.SanitizedTexts
