import AbiBindings.Abi.Contract
import AbiBindings.Abi.Elementary
import AbiBindings.Abi.Parameter
import AbiBindings.Abi.Reading
import AbiBindings.Abi.Signature
import AbiBindings.Abi.Stored
import AbiBindings.Abi.TypeShape
import AbiBindings.Abi.TypeText
import AbiBindings.Command.Arguments
import AbiBindings.Command.Codegen
import AbiBindings.Command.Program
import AbiBindings.Emit.ContractClass
import AbiBindings.Emit.Decoding
import AbiBindings.Emit.Encoding
import AbiBindings.Emit.EventClass
import AbiBindings.Emit.Imports
import AbiBindings.Emit.LibraryForm
import AbiBindings.Emit.LibrarySymbol
import AbiBindings.Emit.Method
import AbiBindings.Emit.Rendering
import AbiBindings.Emit.SourceFile
import AbiBindings.Emit.StructClass
import AbiBindings.Emit.Template
import AbiBindings.Emit.ValueType
import AbiBindings.Emit.Warning
import AbiBindings.Error
import AbiBindings.Hash.Keccak
import AbiBindings.Json.Number
import AbiBindings.Json.Reader
import AbiBindings.Json.Token
import AbiBindings.Json.Value
import AbiBindings.Main
import AbiBindings.Names.Fresh
import AbiBindings.Names.Named
import AbiBindings.Names.Resolution
import AbiBindings.Names.Scope
import AbiBindings.Number.Binary
import AbiBindings.Number.Decimal
import AbiBindings.Number.Digits
import AbiBindings.Number.Shortest
import AbiBindings.Proofs.Abi.Acceptance
import AbiBindings.Proofs.Abi.CanonicalTypes
import AbiBindings.Proofs.Abi.Decomposition
import AbiBindings.Proofs.Abi.ElementaryNames
import AbiBindings.Proofs.Abi.Entries
import AbiBindings.Proofs.Abi.Grammar
import AbiBindings.Proofs.Abi.Levels
import AbiBindings.Proofs.Abi.Skeleton
import AbiBindings.Proofs.Abi.Strings
import AbiBindings.Proofs.Abi.UniqueReading
import AbiBindings.Proofs.Command.Failures
import AbiBindings.Proofs.Command.Overlay
import AbiBindings.Proofs.Emit.ArrayLevels
import AbiBindings.Proofs.Emit.Capture
import AbiBindings.Proofs.Emit.ClassNames
import AbiBindings.Proofs.Emit.ClassShapes
import AbiBindings.Proofs.Emit.EventClassMentions
import AbiBindings.Proofs.Emit.EventWiring
import AbiBindings.Proofs.Emit.ExactImports
import AbiBindings.Proofs.Emit.ExpressionMentions
import AbiBindings.Proofs.Emit.ExpressionTexts
import AbiBindings.Proofs.Emit.IdentifierNames
import AbiBindings.Proofs.Emit.Locality
import AbiBindings.Proofs.Emit.Mentions
import AbiBindings.Proofs.Emit.MethodMentions
import AbiBindings.Proofs.Emit.MethodWiring
import AbiBindings.Proofs.Emit.NamedTypes
import AbiBindings.Proofs.Emit.Operands
import AbiBindings.Proofs.Emit.QuietNames
import AbiBindings.Proofs.Emit.Rendering
import AbiBindings.Proofs.Emit.StructClassMentions
import AbiBindings.Proofs.Emit.StructWiring
import AbiBindings.Proofs.Emit.StructsEmitted
import AbiBindings.Proofs.Emit.TemplateMentions
import AbiBindings.Proofs.Emit.TopLevelNames
import AbiBindings.Proofs.Names.Conflicts
import AbiBindings.Proofs.Names.Distinct
import AbiBindings.Proofs.Names.Fresh
import AbiBindings.Proofs.Names.Identifiers
import AbiBindings.Proofs.Names.Resolution
import AbiBindings.Proofs.Names.Supply
import AbiBindings.Proofs.Results
import AbiBindings.Proofs.Struct.Coverage
import AbiBindings.Proofs.Struct.DeclaredClasses
import AbiBindings.Proofs.Struct.DeclaredNames
import AbiBindings.Proofs.Struct.Distinct
import AbiBindings.Proofs.Struct.Fitting
import AbiBindings.Proofs.Struct.Growth
import AbiBindings.Proofs.Struct.Rereading
import AbiBindings.Proofs.Text.Ascii
import AbiBindings.Proofs.Text.Identifiers
import AbiBindings.Proofs.Text.PascalCase
import AbiBindings.Proofs.Workspace.Clearing
import AbiBindings.Proofs.Workspace.Effects
import AbiBindings.Proofs.Workspace.Frames
import AbiBindings.Proofs.Workspace.Inputs
import AbiBindings.Proofs.Workspace.Outcomes
import AbiBindings.Proofs.Workspace.Outputs
import AbiBindings.Proofs.Workspace.Places
import AbiBindings.Proofs.Workspace.Preview
import AbiBindings.Struct.Declared
import AbiBindings.Struct.Definition
import AbiBindings.Struct.Registry
import AbiBindings.Text.Alphabetic
import AbiBindings.Text.Blank
import AbiBindings.Text.CaseTables
import AbiBindings.Text.CasedLetters
import AbiBindings.Text.Casing
import AbiBindings.Text.Cluster
import AbiBindings.Text.ClusterBreak
import AbiBindings.Text.Letters
import AbiBindings.Text.Mark
import AbiBindings.Text.Numeric
import AbiBindings.Text.PascalCase
import AbiBindings.Text.Printable
import AbiBindings.Text.Quoted
import AbiBindings.Text.Ranges
import AbiBindings.Text.Recent
import AbiBindings.Toml.Reader
import AbiBindings.Toml.Scalar
import AbiBindings.Toml.Table
import AbiBindings.Toml.Token
import AbiBindings.Toml.Value
import AbiBindings.Workspace.Access
import AbiBindings.Workspace.FileSystem
import AbiBindings.Workspace.Generation
import AbiBindings.Workspace.IoFault
import AbiBindings.Workspace.Note
import AbiBindings.Workspace.PathText
import AbiBindings.Workspace.Settings
