import BuilderForge.Anchoring
import BuilderForge.BuildScript
import BuilderForge.BuilderCode
import BuilderForge.BuilderSpec
import BuilderForge.Code.Format
import BuilderForge.Code.Format.Attribute
import BuilderForge.Code.Format.Basic
import BuilderForge.Code.Format.Expr
import BuilderForge.Code.Format.Item
import BuilderForge.Code.Format.Macro
import BuilderForge.Code.Format.Type
import BuilderForge.Code.IntegerLiteral
import BuilderForge.Code.Item
import BuilderForge.Code.Layout
import BuilderForge.Code.Lexer
import BuilderForge.Code.Lexer.Gap
import BuilderForge.Code.Lexer.Literal
import BuilderForge.Code.Parser.Attribute
import BuilderForge.Code.Parser.Basic
import BuilderForge.Code.Parser.Expr
import BuilderForge.Code.Parser.File
import BuilderForge.Code.Parser.Item
import BuilderForge.Code.Parser.Path
import BuilderForge.Code.Parser.Pattern
import BuilderForge.Code.Parser.Statement
import BuilderForge.Code.Parser.Type
import BuilderForge.Code.Spell
import BuilderForge.Code.StringLiteral
import BuilderForge.Code.Token
import BuilderForge.Code.Tree
import BuilderForge.CommandLine
import BuilderForge.CommandLine.Arguments
import BuilderForge.CommandLine.Listing
import BuilderForge.CommandLine.Options
import BuilderForge.CommandLine.Paint
import BuilderForge.CommandLine.Transcript
import BuilderForge.Config
import BuilderForge.Derive
import BuilderForge.Diagnostic
import BuilderForge.Disk
import BuilderForge.FieldChain
import BuilderForge.FilePath
import BuilderForge.Generation
import BuilderForge.Instance
import BuilderForge.Instance.Fault
import BuilderForge.Instance.Value
import BuilderForge.Main
import BuilderForge.ModulePath
import BuilderForge.ModuleTree
import BuilderForge.Naming
import BuilderForge.Output
import BuilderForge.Proofs.Anchoring.Accounts
import BuilderForge.Proofs.Anchoring.Alike
import BuilderForge.Proofs.Anchoring.Arguments
import BuilderForge.Proofs.Anchoring.Meaning
import BuilderForge.Proofs.Anchoring.Mentions
import BuilderForge.Proofs.Anchoring.Settled
import BuilderForge.Proofs.Anchoring.Shape
import BuilderForge.Proofs.Anchoring.Unreachable
import BuilderForge.Proofs.Anchoring.Values
import BuilderForge.Proofs.Builder.Agreement
import BuilderForge.Proofs.Builder.Partition
import BuilderForge.Proofs.Builder.RoundTrip
import BuilderForge.Proofs.Builder.Setters
import BuilderForge.Proofs.Config.Selection
import BuilderForge.Proofs.Derive.Accepted
import BuilderForge.Proofs.Derive.Agreement
import BuilderForge.Proofs.Derive.Expansion
import BuilderForge.Proofs.Derive.Grammar
import BuilderForge.Proofs.Disk.Below
import BuilderForge.Proofs.Disk.Following
import BuilderForge.Proofs.Disk.Kinds
import BuilderForge.Proofs.Disk.Paths
import BuilderForge.Proofs.Disk.Writing
import BuilderForge.Proofs.FieldAccess.Assign
import BuilderForge.Proofs.FieldAccess.Delegation
import BuilderForge.Proofs.FieldAccess.Exact
import BuilderForge.Proofs.FieldAccess.Run
import BuilderForge.Proofs.FieldAccess.Walk
import BuilderForge.Proofs.FieldChain.Collection
import BuilderForge.Proofs.FieldChain.Lineage
import BuilderForge.Proofs.Generation.Accounts
import BuilderForge.Proofs.Generation.Declared
import BuilderForge.Proofs.Generation.Enumeration
import BuilderForge.Proofs.Generation.Exclusion
import BuilderForge.Proofs.Generation.Filtering
import BuilderForge.Proofs.Generation.Outcome
import BuilderForge.Proofs.Generation.RootModule
import BuilderForge.Proofs.ModulePath.Reading
import BuilderForge.Proofs.ModuleTree.Declared
import BuilderForge.Proofs.ModuleTree.Entries
import BuilderForge.Proofs.ModuleTree.Faithful
import BuilderForge.Proofs.ModuleTree.FileNames
import BuilderForge.Proofs.ModuleTree.Files
import BuilderForge.Proofs.ModuleTree.Insertion
import BuilderForge.Proofs.ModuleTree.Loading
import BuilderForge.Proofs.ModuleTree.Paths
import BuilderForge.Proofs.ModuleTree.Written
import BuilderForge.Proofs.Naming.Words
import BuilderForge.Proofs.Output.Arrival
import BuilderForge.Proofs.Output.Attempts
import BuilderForge.Proofs.Parsing.Advancing
import BuilderForge.Proofs.Parsing.Listing
import BuilderForge.Proofs.Parsing.Modules
import BuilderForge.Proofs.Registry.Additions
import BuilderForge.Proofs.Registry.Building
import BuilderForge.Proofs.Registry.Contents
import BuilderForge.Proofs.Registry.Enumeration
import BuilderForge.Proofs.Registry.Exports
import BuilderForge.Proofs.Registry.Insertion
import BuilderForge.Proofs.Registry.Keys
import BuilderForge.Proofs.Registry.Markers
import BuilderForge.Proofs.Registry.Notes
import BuilderForge.Proofs.Registry.Reordering
import BuilderForge.Proofs.Registry.Walk
import BuilderForge.Proofs.Resolution.CratePath
import BuilderForge.Proofs.Resolution.Exposure
import BuilderForge.Proofs.Resolution.FileOrder
import BuilderForge.Proofs.Resolution.Flattening
import BuilderForge.Proofs.Resolution.Introductions
import BuilderForge.Proofs.Resolution.Leading
import BuilderForge.Proofs.Resolution.Lookups
import BuilderForge.Proofs.Resolution.ModuleAlias
import BuilderForge.Proofs.Resolution.Nameable
import BuilderForge.Proofs.Resolution.NewName
import BuilderForge.Proofs.Resolution.OwnImport
import BuilderForge.Proofs.Resolution.Precedence
import BuilderForge.Proofs.Resolution.Reexports
import BuilderForge.Proofs.Resolution.Relative
import BuilderForge.Proofs.Resolution.SelfForm
import BuilderForge.Proofs.Resolution.Supply
import BuilderForge.Proofs.Resolution.Ties
import BuilderForge.Proofs.Resolution.Visible
import BuilderForge.Proofs.Scan.Account
import BuilderForge.Proofs.Scan.Ending
import BuilderForge.Proofs.Scan.Lookup
import BuilderForge.Proofs.Scan.Skipping
import BuilderForge.Proofs.Text.Quoting
import BuilderForge.Registry
import BuilderForge.Registry.Declaration
import BuilderForge.Registry.Scope
import BuilderForge.Resolution
import BuilderForge.Sample
import BuilderForge.Scan
import BuilderForge.Source
import BuilderForge.Text.Blank
import BuilderForge.Text.CharWidth
import BuilderForge.Text.Cluster
import BuilderForge.Text.Combining
import BuilderForge.Text.Emoji
import BuilderForge.Text.Json
import BuilderForge.Text.Letter
import BuilderForge.Text.Ligature
import BuilderForge.Text.Quoted
import BuilderForge.Text.Ranges
import BuilderForge.Text.Split
import BuilderForge.Text.Table
import BuilderForge.Text.Width
import BuilderForge.Text.Word
import BuilderForge.Text.Wrap
