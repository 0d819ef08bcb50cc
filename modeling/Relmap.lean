import Relmap.Text.Blank
import Relmap.Text.Capital
import Relmap.Text.Visible
import Relmap.Text.Literal
import Relmap.Decimal.Layout
import Relmap.Cell
import Relmap.Table
import Relmap.Statement.Select
import Relmap.Row
import Relmap.Driver.Script
import Relmap.Driver.Logging
import Relmap.QuerySet.Inspect
import Relmap.Driver.Echo
import Relmap.Sample
import Relmap.Schema
import Relmap.Ddl.Extract
import Relmap.Identifier
import Relmap.Dictionary
import Relmap.Json
import Relmap.Json.Reader
import Relmap.Json.Pretty
import Relmap.Catalog.Lexeme
import Relmap.Catalog
import Relmap.Schema.Replay
import Relmap.Catalog.Driver
import Relmap.Files
import Relmap.Settings.Reading
import Relmap.Schema.Load
import Relmap.CommandLine
import Relmap.Main
import Relmap.Proofs.StatementTokens
import Relmap.Proofs.CompiledConditions
import Relmap.Proofs.ConditionTruth
import Relmap.Proofs.ConditionGrammar
import Relmap.Proofs.ConditionReading
import Relmap.Proofs.Inquiries
import Relmap.Proofs.SessionCalls
import Relmap.Proofs.SlotBinding
import Relmap.Proofs.StatementShape
import Relmap.Proofs.WindowArithmetic
import Relmap.Proofs.RequestReading
import Relmap.Proofs.PageCoverage
import Relmap.Proofs.QuerySetAnswers
import Relmap.Proofs.GeneratedModels
import Relmap.Proofs.StoredFields
import Relmap.Proofs.TypeIds
import Relmap.Proofs.ConditionFaults
import Relmap.Proofs.IdentifierShape
import Relmap.Proofs.EntityNames
import Relmap.Proofs.LiteralText
import Relmap.Proofs.SourceLines
import Relmap.Proofs.SourceTokens
import Relmap.Proofs.SourceReading
import Relmap.Proofs.GeneratedSource
import Relmap.Proofs.SourceSchema
import Relmap.Proofs.LoggedRequests
import Relmap.Proofs.PageCalls
import Relmap.Proofs.ProcessRuns
import Relmap.Proofs.SchemaScanning
import Relmap.Proofs.PageNumbers
import Relmap.Proofs.ConditionChains
import Relmap.Proofs.QuerySetConditions
import Relmap.Proofs.CheckedConditions
import Relmap.Proofs.LikePatterns
import Relmap.Proofs.DecodedRows
import Relmap.Proofs.FieldNames
import Relmap.Proofs.ExtractedStatements
import Relmap.Proofs.IntrospectedTables
import Relmap.Proofs.SourceOrder
import Relmap.Proofs.HintFaults
import Relmap.Proofs.LoggedValues
import Relmap.Proofs.ReplayedStatements
import Relmap.Proofs.SchemaFiles
import Relmap.Proofs.HintScope
import Relmap.Proofs.SnakeCase
