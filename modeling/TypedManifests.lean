import TypedManifests.CommandLine.Program
import TypedManifests.CommandLine.Request
import TypedManifests.CommandLine.Switch
import TypedManifests.Console.Item
import TypedManifests.Console.Markup
import TypedManifests.Diff.Stretch
import TypedManifests.Diff.Unified
import TypedManifests.Document
import TypedManifests.Files.Tree
import TypedManifests.Files.Walk
import TypedManifests.Files.Workspace
import TypedManifests.ImageConvention
import TypedManifests.ImageReference
import TypedManifests.Log
import TypedManifests.Main
import TypedManifests.Manifest.Components
import TypedManifests.Manifest.KeyOrder
import TypedManifests.Manifest.Loading
import TypedManifests.Manifest.Resource
import TypedManifests.Manifest.ResourceSet
import TypedManifests.Number.Binary64
import TypedManifests.Number.Reading
import TypedManifests.Number.Shortest
import TypedManifests.Path.Basic
import TypedManifests.Path.Glob
import TypedManifests.Proofs.Agreement
import TypedManifests.Proofs.CallProtocol
import TypedManifests.Proofs.CheckedRecords
import TypedManifests.Proofs.ClaimTemplates
import TypedManifests.Proofs.CompletedMappings
import TypedManifests.Proofs.ContainerSummary
import TypedManifests.Proofs.Cuts
import TypedManifests.Proofs.DataInShape
import TypedManifests.Proofs.EncoderFailure
import TypedManifests.Proofs.EntryOrder
import TypedManifests.Proofs.EqualLines
import TypedManifests.Proofs.ExactIndex
import TypedManifests.Proofs.FailureCauses
import TypedManifests.Proofs.FileContents
import TypedManifests.Proofs.FirstFault
import TypedManifests.Proofs.GeneratedFiles
import TypedManifests.Proofs.Grammar
import TypedManifests.Proofs.HeadKeys
import TypedManifests.Proofs.HonestReport
import TypedManifests.Proofs.ImageParts
import TypedManifests.Proofs.Indentation
import TypedManifests.Proofs.LayeredSettings
import TypedManifests.Proofs.Lexing
import TypedManifests.Proofs.ManifestWalk
import TypedManifests.Proofs.MergedRecord
import TypedManifests.Proofs.NumberRange
import TypedManifests.Proofs.OwnFiles
import TypedManifests.Proofs.ParallelWalk
import TypedManifests.Proofs.Parts
import TypedManifests.Proofs.Passes
import TypedManifests.Proofs.Places
import TypedManifests.Proofs.Positions
import TypedManifests.Proofs.PrintedTypes
import TypedManifests.Proofs.Recovery
import TypedManifests.Proofs.Replacement
import TypedManifests.Proofs.ReshapedParts
import TypedManifests.Proofs.Reshaping
import TypedManifests.Proofs.RoundTrip
import TypedManifests.Proofs.RunParts
import TypedManifests.Proofs.RunSteps
import TypedManifests.Proofs.SampleWalk
import TypedManifests.Proofs.SchemaType
import TypedManifests.Proofs.SecondRun
import TypedManifests.Proofs.Sharing
import TypedManifests.Proofs.Sorting
import TypedManifests.Proofs.Spacing
import TypedManifests.Proofs.Spans
import TypedManifests.Proofs.StrictGrammar
import TypedManifests.Proofs.Substitution
import TypedManifests.Proofs.TextFaults
import TypedManifests.Proofs.TimeLimits
import TypedManifests.Proofs.TokenIndex
import TypedManifests.Proofs.VisibleDifference
import TypedManifests.Reshape
import TypedManifests.Run.Command
import TypedManifests.Run.Conversion
import TypedManifests.Run.Encoder
import TypedManifests.Run.Output
import TypedManifests.Run.Report
import TypedManifests.Run.World
import TypedManifests.SampleIndex
import TypedManifests.Settings
import TypedManifests.Settings.File
import TypedManifests.Strengthening
import TypedManifests.Text.CharacterClass
import TypedManifests.Text.CharacterTables
import TypedManifests.Text.Excerpt
import TypedManifests.Text.Lines
import TypedManifests.Text.Position
import TypedManifests.Text.QuotedLiteral
import TypedManifests.Text.Split
import TypedManifests.Text.Words
import TypedManifests.TypeExpr.Basic
import TypedManifests.TypeExpr.ErrorMessage
import TypedManifests.TypeExpr.Lexer
import TypedManifests.TypeExpr.Parser
import TypedManifests.TypeExpr.Printer
import TypedManifests.TypeExpr.Token
import TypedManifests.TypeExpr.Transform
import TypedManifests.Value.Basic
import TypedManifests.Value.Calendar
import TypedManifests.Value.Literal
import TypedManifests.Value.Shape
import TypedManifests.Yaml.Cursor
import TypedManifests.Yaml.Documents
import TypedManifests.Yaml.Node
import TypedManifests.Yaml.NodeValue
import TypedManifests.Yaml.ScalarKind
import TypedManifests.Yaml.ScalarValue
import TypedManifests.Yaml.Style
import TypedManifests.Yaml.Token.Basic
import TypedManifests.Yaml.Token.Lexer
import TypedManifests.Yaml.Token.Mark
import TypedManifests.Yaml.Token.Scalar
import TypedManifests.Yaml.Writer
