import Webprint.Text.Search
import Webprint.Text.Quoted
import Webprint.Json.Decode
import Webprint.Regex.Basic
import Webprint.Confidence
import Webprint.Field
import Webprint.Slug
import Webprint.Pattern.Text
import Webprint.Version
import Webprint.Signature
import Webprint.Rule.Document
import Webprint.Catalogue
import Webprint.Analysis
import Webprint.Main
import Webprint.Proofs.Ascending
import Webprint.Proofs.Confidence
import Webprint.Proofs.Decoding
import Webprint.Proofs.CatalogueForm
import Webprint.Proofs.FirstOccurrence
import Webprint.Proofs.Gathering
import Webprint.Proofs.Relating
import Webprint.Proofs.Discovery
import Webprint.Proofs.Votes
import Webprint.Proofs.Scoring
import Webprint.Proofs.Saturation
import Webprint.Proofs.BoostedWeight
import Webprint.Proofs.BestVersion
import Webprint.Proofs.Outcome
import Webprint.Proofs.Analysis
import Webprint.Proofs.Monotone
import Webprint.Proofs.Locality
import Webprint.Proofs.Occurrences
import Webprint.Proofs.Version
import Webprint.Proofs.LetterCase
import Webprint.Proofs.CompiledFields
import Webprint.Proofs.SignatureForm
import Webprint.Proofs.KeyExpressions
import Webprint.Proofs.Compilation
import Webprint.Proofs.Utf8
import Webprint.Proofs.Construction
import Webprint.Proofs.KeptCatalogue
import Webprint.Proofs.PageEntries
import Webprint.Proofs.Globals
import Webprint.Proofs.Overlay
import Webprint.Proofs.CategoryNames
import Webprint.Proofs.Adjustment
import Webprint.Proofs.Implication
import Webprint.Proofs.RankOrder
import Webprint.Proofs.CapturedText
import Webprint.Proofs.GroupNumbers
import Webprint.Proofs.HeaderOrder
import Webprint.Proofs.DocumentForm
import Webprint.Proofs.Defects
import Webprint.Proofs.Attributes
import Webprint.Proofs.Escapes
import Webprint.Proofs.Merging
import Webprint.Proofs.SchemeMarks
import Webprint.Proofs.Spellings
import Webprint.Proofs.HeaderText
import Webprint.Proofs.SnapshotForm
import Webprint.Proofs.Slug
import Webprint.Proofs.Preview
import Webprint.Proofs.Places
import Webprint.Proofs.Findings
