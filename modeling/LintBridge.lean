import LintBridge.Assoc
import LintBridge.Text.Blank
import LintBridge.Text.Pieces
import LintBridge.Text.Utf8
import LintBridge.Text.Quoted
import LintBridge.Text.CellWidth
import LintBridge.Text.Similarity
import LintBridge.Number.Shortest
import LintBridge.Number.Numeral
import LintBridge.Value.Display
import LintBridge.Json.Decode
import LintBridge.Json.Encode
import LintBridge.Lint.Registry
import LintBridge.Lint.Batch
import LintBridge.Path.Uri
import LintBridge.RulePath
import LintBridge.Config.Load
import LintBridge.Session.Run
import LintBridge.Server
import LintBridge.Script.Start
import LintBridge.Log.Setup
import LintBridge.Console.Table
import LintBridge.Main
import LintBridge.Lint.Command
import LintBridge.Config.Merge
import LintBridge.Config.Settings
import LintBridge.Proofs.Acceptance
import LintBridge.Proofs.DigitRuns
import LintBridge.Proofs.Verdict
import LintBridge.Proofs.Turns
import LintBridge.Proofs.Delivery
import LintBridge.Proofs.Translation
import LintBridge.Proofs.Uninterrupted
import LintBridge.Proofs.Activity
import LintBridge.Proofs.Mirror
import LintBridge.Proofs.Latest
import LintBridge.Proofs.Passes
import LintBridge.Proofs.Shutdown
import LintBridge.Proofs.Offers
import LintBridge.Proofs.Resolution
import LintBridge.Proofs.Employment
import LintBridge.Proofs.Discovery
import LintBridge.Proofs.Coordinates
import LintBridge.Proofs.Merging
import LintBridge.Proofs.Fields
import LintBridge.Proofs.Layers
import LintBridge.Proofs.Precedence
import LintBridge.Proofs.Escapes
import LintBridge.Proofs.Layout
import LintBridge.Proofs.Rereading
import LintBridge.Proofs.DoubleQuotes
import LintBridge.Proofs.Scalars
import LintBridge.Proofs.MappingTokens
import LintBridge.Proofs.StateText
import LintBridge.Proofs.StateFile
import LintBridge.Proofs.Folders
import LintBridge.Proofs.Recall
import LintBridge.Proofs.Records
import LintBridge.Proofs.Survival
import LintBridge.Proofs.Upshot
import LintBridge.Proofs.Handling
import LintBridge.Proofs.Provision
import LintBridge.Proofs.Chronicle
import LintBridge.Proofs.Relint
import LintBridge.Proofs.FileUris
import LintBridge.Proofs.Commands
import LintBridge.Proofs.Entrances
import LintBridge.Proofs.JsonTexts
import LintBridge.Proofs.Overrides
import LintBridge.Proofs.Foretold
import LintBridge.Proofs.Batches
import LintBridge.Proofs.JsonKinds
import LintBridge.Proofs.RecordForms
import LintBridge.Proofs.Overwriting
import LintBridge.Proofs.JsonDocuments
import LintBridge.Proofs.Markup
import LintBridge.Proofs.Reports
import LintBridge.Proofs.Presentation
import LintBridge.Proofs.ForeignKeys
import LintBridge.Proofs.Correspondence
import LintBridge.Proofs.Rounds
import LintBridge.Proofs.Attribution
import LintBridge.Proofs.Listing
import LintBridge.Proofs.Fallbacks
import LintBridge.Proofs.RulePaths
import LintBridge.Proofs.Forgetting
import LintBridge.Proofs.Processes
import LintBridge.Proofs.LastWrite
import LintBridge.Proofs.Independence
import LintBridge.Proofs.Enclosure
import LintBridge.Proofs.DamagedRecord
import LintBridge.Proofs.Counters
import LintBridge.Proofs.Nesting
import LintBridge.Proofs.SharedMappings
