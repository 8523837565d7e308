import Widgetry.Text.Ranges
import Widgetry.Text.Word
import Widgetry.Text.Letter
import Widgetry.Text.Hexadecimal
import Widgetry.Text.Hidden
import Widgetry.Text.Blank
import Widgetry.Text.Caseless
import Widgetry.Text.Identifier
import Widgetry.Text.Lines
import Widgetry.Text.Literal
import Widgetry.Text.Quoted
import Widgetry.Diagnostic
import Widgetry.Fault
import Widgetry.Markup.Element
import Widgetry.Markup.Entity
import Widgetry.Markup.Block
import Widgetry.Markup.Reference
import Widgetry.Markup.Token
import Widgetry.Markup.Reader
import Widgetry.Table
import Widgetry.Tree.Basic
import Widgetry.Tree.Place
import Widgetry.Tree.Walk
import Widgetry.Decimal.Shortest
import Widgetry.Json.Number
import Widgetry.Json.Value
import Widgetry.Json.Reader
import Widgetry.Json.Decode
import Widgetry.Registry.Basic
import Widgetry.Registry.Builtin
import Widgetry.Registry.Check
import Widgetry.Registry.Decode
import Widgetry.Namer
import Widgetry.MenuSkip
import Widgetry.Structure
import Widgetry.Template
import Widgetry.Script.Statement
import Widgetry.Menu
import Widgetry.Script.Parts
import Widgetry.Script.Record
import Widgetry.Script.Basic
import Widgetry.Script.Extract
import Widgetry.Compile
import Widgetry.Component.Section
import Widgetry.Component.Language
import Widgetry.Source.Token
import Widgetry.Source.Parser
import Widgetry.Source.Binding
import Widgetry.Source.TypeExpression
import Widgetry.Source.Expression
import Widgetry.Source.Class
import Widgetry.Source.TypeDeclaration
import Widgetry.Source.Exchange
import Widgetry.Source.Statement
import Widgetry.Source.Module
import Widgetry.Component.Outline
import Widgetry.Component.Splice
import Widgetry.Component.Compile
import Widgetry.Proofs.Lists
import Widgetry.Proofs.Walk
import Widgetry.Proofs.Acceptance
import Widgetry.Proofs.Agreement
import Widgetry.Proofs.Naming
import Widgetry.Proofs.Rendering
import Widgetry.Proofs.TagBalance
import Widgetry.Proofs.Program.Syntax
import Widgetry.Proofs.Program.Run
import Widgetry.Proofs.MenuProgram
import Widgetry.Proofs.MenuGraph
import Widgetry.Proofs.Faults
import Widgetry.Proofs.Records
import Widgetry.Proofs.Verdict
import Widgetry.Proofs.Grammar
import Widgetry.Proofs.FreshNames
import Widgetry.Proofs.Program.Brackets
import Widgetry.Proofs.ScriptText
import Widgetry.Proofs.Component.Blocks
import Widgetry.Proofs.Component.QuotedTags
import Widgetry.Proofs.Component.QuietTemplate
import Widgetry.Proofs.Component.Rereading
import Widgetry.Proofs.Fragments
import Widgetry.Proofs.Footprint
import Widgetry.Proofs.Document.ReadBack
import Widgetry.Proofs.Table
import Widgetry.Proofs.NamingRuns
import Widgetry.Proofs.Arena
import Widgetry.Proofs.Tours
import Widgetry.Proofs.MenuFlag
import Widgetry.Proofs.MenuLayout
import Widgetry.Proofs.Imports
import Widgetry.Proofs.Fallbacks
import Widgetry.Proofs.Component.Declarations
import Widgetry.Proofs.Component.Places
import Widgetry.Proofs.Component.Assembling
import Widgetry.Proofs.Component.Splicing
import Widgetry.Proofs.Component.Recompiling
import Widgetry.Proofs.Literals
import Widgetry.Proofs.CamelCase
import Widgetry.Proofs.FilledLines
import Widgetry.Proofs.CreatedLines
