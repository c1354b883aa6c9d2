import ProtoClass.Class.Decl
import ProtoClass.Class.Document
import ProtoClass.Class.FieldType
import ProtoClass.Class.Oneof
import ProtoClass.Command.Arguments
import ProtoClass.Command.Run
import ProtoClass.Compiled.Basic
import ProtoClass.Compiled.Binary
import ProtoClass.Compiled.Comment
import ProtoClass.Compiled.Schema
import ProtoClass.Config
import ProtoClass.Docs
import ProtoClass.Error
import ProtoClass.Files.Store
import ProtoClass.Files.Tree
import ProtoClass.Json.Printer
import ProtoClass.Json.Reader
import ProtoClass.Json.Value
import ProtoClass.Load
import ProtoClass.Main
import ProtoClass.Module.Decl
import ProtoClass.Module.Emission
import ProtoClass.Module.Generator
import ProtoClass.Module.Path
import ProtoClass.Naming.Fresh
import ProtoClass.Naming.Property
import ProtoClass.Proofs.Class.Alike
import ProtoClass.Proofs.Class.Discrimination
import ProtoClass.Proofs.Class.LongForms
import ProtoClass.Proofs.Class.Oneof
import ProtoClass.Proofs.Class.Params
import ProtoClass.Proofs.Class.Placement
import ProtoClass.Proofs.Class.References
import ProtoClass.Proofs.Class.Resolving
import ProtoClass.Proofs.Class.Shape
import ProtoClass.Proofs.Compiled.Folding
import ProtoClass.Proofs.Compiled.Linking
import ProtoClass.Proofs.Files.Tree
import ProtoClass.Proofs.Module.Acceptance
import ProtoClass.Proofs.Module.Agreement
import ProtoClass.Proofs.Module.Contents
import ProtoClass.Proofs.Module.Emission
import ProtoClass.Proofs.Module.FileOrder
import ProtoClass.Proofs.Module.Generation
import ProtoClass.Proofs.Module.History
import ProtoClass.Proofs.Module.Linking
import ProtoClass.Proofs.Module.Reservation
import ProtoClass.Proofs.Module.Reserve
import ProtoClass.Proofs.Module.Run
import ProtoClass.Proofs.Module.Writing
import ProtoClass.Proofs.Naming.Fresh
import ProtoClass.Proofs.Naming.Property
import ProtoClass.Proofs.Naming.Search
import ProtoClass.Proofs.Naming.Allocation
import ProtoClass.Proofs.Resolution.LocalNames
import ProtoClass.Proofs.Resolution.Message
import ProtoClass.Proofs.Schema.Abridged
import ProtoClass.Proofs.Schema.Catalog
import ProtoClass.Proofs.Schema.FirstDeclarations
import ProtoClass.Proofs.Schema.Order
import ProtoClass.Proofs.Schema.Permutation
import ProtoClass.Proofs.Schema.Places
import ProtoClass.Proofs.Schema.RoundTrip
import ProtoClass.Proofs.Symbol.Alike
import ProtoClass.Proofs.Symbol.Gen
import ProtoClass.Proofs.Symbol.Granting
import ProtoClass.Proofs.Symbol.ImportList
import ProtoClass.Proofs.Symbol.Imports
import ProtoClass.Proofs.Symbol.Interleaving
import ProtoClass.Proofs.Symbol.Operations
import ProtoClass.Proofs.Symbol.References
import ProtoClass.Proofs.Symbol.Resolving
import ProtoClass.Proofs.Symbol.Scopes
import ProtoClass.Proofs.Symbol.Session
import ProtoClass.Proofs.Symbol.Stability
import ProtoClass.Proofs.Symbol.Table
import ProtoClass.Proofs.TypeScript.Literal
import ProtoClass.Proofs.TypeScript.Reading
import ProtoClass.Proofs.TypeScript.Unambiguity
import ProtoClass.Resolution.Message
import ProtoClass.Schema.Catalog
import ProtoClass.Schema.Decl
import ProtoClass.Schema.Document
import ProtoClass.Schema.Format
import ProtoClass.Schema.Identity
import ProtoClass.Schema.Reader
import ProtoClass.Schema.Scalar
import ProtoClass.Settings
import ProtoClass.Symbol.Table
import ProtoClass.Text.Blank
import ProtoClass.Text.Camel
import ProtoClass.Text.Case
import ProtoClass.Text.CaseTable
import ProtoClass.Text.Cluster
import ProtoClass.Text.ClusterTable
import ProtoClass.TypeScript.Lexical
import ProtoClass.TypeScript.TypeExpr
import ProtoClass.Wire.Field
import ProtoClass.Yaml.Format
import ProtoClass.Yaml.Node
import ProtoClass.Yaml.Position
import ProtoClass.Yaml.Scalar
import ProtoClass.Yaml.Token
import ProtoClass.Proofs.Schema.Scoping
import ProtoClass.Proofs.Module.Specifiers
import ProtoClass.Proofs.Naming.Identifier
import ProtoClass.Proofs.Class.Repetition
import ProtoClass.Proofs.Class.Optionality
import ProtoClass.Proofs.TypeScript.Comments
import ProtoClass.Proofs.Module.Documentation
import ProtoClass.Proofs.Module.DeclaredNames
import ProtoClass.Proofs.Compiled.Comments
