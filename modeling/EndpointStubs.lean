import EndpointStubs.Command.Arguments
import EndpointStubs.Command.Run
import EndpointStubs.Diagnostic
import EndpointStubs.Document
import EndpointStubs.Fact.Basic
import EndpointStubs.Fact.OfDocument
import EndpointStubs.Fact.Scan
import EndpointStubs.Files.Encoding
import EndpointStubs.Files.Path
import EndpointStubs.Files.Search
import EndpointStubs.Files.System
import EndpointStubs.Files.Wildcard
import EndpointStubs.Java.Annotations
import EndpointStubs.Java.Bracket
import EndpointStubs.Java.Comment
import EndpointStubs.Java.ControllerMention
import EndpointStubs.Java.Header
import EndpointStubs.Java.Imports
import EndpointStubs.Java.Lexeme
import EndpointStubs.Java.Outline
import EndpointStubs.Java.Signature
import EndpointStubs.Java.StringLiteral
import EndpointStubs.Json
import EndpointStubs.Main
import EndpointStubs.Model.Basic
import EndpointStubs.Model.Check
import EndpointStubs.Model.Fold
import EndpointStubs.Model.Json
import EndpointStubs.Model.Template
import EndpointStubs.Proofs.ArgumentOrders
import EndpointStubs.Proofs.ArgumentReading
import EndpointStubs.Proofs.BlockTexts
import EndpointStubs.Proofs.BraceDepth
import EndpointStubs.Proofs.BracketBalance
import EndpointStubs.Proofs.CheckedStubs
import EndpointStubs.Proofs.ClassFiles
import EndpointStubs.Proofs.ClassText
import EndpointStubs.Proofs.ConstantNames
import EndpointStubs.Proofs.ControllerMentions
import EndpointStubs.Proofs.ConventionalNames
import EndpointStubs.Proofs.DeclarationTree
import EndpointStubs.Proofs.DeclaredMethods
import EndpointStubs.Proofs.DeclaredTypes
import EndpointStubs.Proofs.DecodedFiles
import EndpointStubs.Proofs.EndpointFacts
import EndpointStubs.Proofs.EntityNames
import EndpointStubs.Proofs.EscapedTexts
import EndpointStubs.Proofs.ExactProblems
import EndpointStubs.Proofs.FactOrder
import EndpointStubs.Proofs.FoldSummary
import EndpointStubs.Proofs.FormatBack
import EndpointStubs.Proofs.FormatString
import EndpointStubs.Proofs.GeneratedSources
import EndpointStubs.Proofs.HeaderReading
import EndpointStubs.Proofs.ImportReading
import EndpointStubs.Proofs.InertClasses
import EndpointStubs.Proofs.InertText
import EndpointStubs.Proofs.InitializerReading
import EndpointStubs.Proofs.JoinedTexts
import EndpointStubs.Proofs.Layout
import EndpointStubs.Proofs.LinkedClasses
import EndpointStubs.Proofs.ListedFiles
import EndpointStubs.Proofs.LiteralPaths
import EndpointStubs.Proofs.LiteralValue
import EndpointStubs.Proofs.MemberReading
import EndpointStubs.Proofs.MethodBodies
import EndpointStubs.Proofs.MethodForms
import EndpointStubs.Proofs.MethodKeys
import EndpointStubs.Proofs.ModelOrder
import EndpointStubs.Proofs.ModelSteps
import EndpointStubs.Proofs.NumberedStubs
import EndpointStubs.Proofs.OpaqueBlocks
import EndpointStubs.Proofs.ParameterReading
import EndpointStubs.Proofs.PrintableModels
import EndpointStubs.Proofs.ProperTemplates
import EndpointStubs.Proofs.RecordedFacts
import EndpointStubs.Proofs.RegistryGrouping
import EndpointStubs.Proofs.RegistryOrder
import EndpointStubs.Proofs.RemovedComments
import EndpointStubs.Proofs.RenderOrder
import EndpointStubs.Proofs.RenderSuccess
import EndpointStubs.Proofs.RepeatedFacts
import EndpointStubs.Proofs.ReportedChanges
import EndpointStubs.Proofs.ResponseParameters
import EndpointStubs.Proofs.ResponseTypes
import EndpointStubs.Proofs.RoundOfSources
import EndpointStubs.Proofs.RoundWriting
import EndpointStubs.Proofs.SettingsFaults
import EndpointStubs.Proofs.SignatureReading
import EndpointStubs.Proofs.SourceReading
import EndpointStubs.Proofs.SourceTree
import EndpointStubs.Proofs.StubMethods
import EndpointStubs.Proofs.StubParameters
import EndpointStubs.Proofs.Substitution
import EndpointStubs.Proofs.SubstitutionLength
import EndpointStubs.Proofs.TemplateCuts
import EndpointStubs.Proofs.TextRuns
import EndpointStubs.Proofs.TypeParameters
import EndpointStubs.Proofs.TypeSyntax
import EndpointStubs.Proofs.UndecodableFiles
import EndpointStubs.Proofs.WrittenAttributes
import EndpointStubs.Proofs.WrittenPaths
import EndpointStubs.Proofs.WrittenSource
import EndpointStubs.Proofs.WrittenTypes
import EndpointStubs.Registry
import EndpointStubs.Round
import EndpointStubs.Runtime
import EndpointStubs.Settings.Basic
import EndpointStubs.Settings.Load
import EndpointStubs.Settings.OfDocument
import EndpointStubs.Stub.Name
import EndpointStubs.Stub.Numbering
import EndpointStubs.Stub.Render
import EndpointStubs.Stub.ResponseType
import EndpointStubs.Text.Blank
import EndpointStubs.Text.Case
import EndpointStubs.Text.CaseTable
import EndpointStubs.Text.CasedTable
import EndpointStubs.Text.ControlSequence
import EndpointStubs.Text.Digit
import EndpointStubs.Text.Loose
import EndpointStubs.Text.Pattern
import EndpointStubs.Text.Quoted
import EndpointStubs.Text.Similarity
import EndpointStubs.Text.UnprintableTable
import EndpointStubs.Text.Word
import EndpointStubs.Text.WordTable
import EndpointStubs.Yaml.Binary
import EndpointStubs.Yaml.Cursor
import EndpointStubs.Yaml.Double
import EndpointStubs.Yaml.Error
import EndpointStubs.Yaml.Graph
import EndpointStubs.Yaml.Kind
import EndpointStubs.Yaml.Load
import EndpointStubs.Yaml.Number
import EndpointStubs.Yaml.Reading
import EndpointStubs.Yaml.Scalar
import EndpointStubs.Yaml.Time
import EndpointStubs.Yaml.Token
