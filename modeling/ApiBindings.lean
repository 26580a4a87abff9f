import ApiBindings.Artifact
import ApiBindings.Binding.Aggregates
import ApiBindings.Binding.CommandTable
import ApiBindings.Binding.Constants
import ApiBindings.Binding.Emit
import ApiBindings.Binding.Enumerations
import ApiBindings.Binding.FunctionTypes
import ApiBindings.Binding.Handles
import ApiBindings.Binding.Identifier
import ApiBindings.Binding.Script
import ApiBindings.CommandLine.Action
import ApiBindings.CommandLine.Argument
import ApiBindings.CommandLine.Program
import ApiBindings.Decimal.Notation
import ApiBindings.Decimal.Shortest
import ApiBindings.Document.Basic
import ApiBindings.Document.Decode
import ApiBindings.Document.Fault
import ApiBindings.Document.Reader
import ApiBindings.Document.Record
import ApiBindings.Document.Scalar
import ApiBindings.Literal
import ApiBindings.Main
import ApiBindings.Proofs.AliasRoots
import ApiBindings.Proofs.BalancedScripts
import ApiBindings.Proofs.BareNames
import ApiBindings.Proofs.BareWord
import ApiBindings.Proofs.BoundedWalk
import ApiBindings.Proofs.BrokenDocuments
import ApiBindings.Proofs.CTypes
import ApiBindings.Proofs.CanonicalSpelling
import ApiBindings.Proofs.ChainSequences
import ApiBindings.Proofs.Characters
import ApiBindings.Proofs.CommandParts
import ApiBindings.Proofs.CommandText
import ApiBindings.Proofs.ConstantAliases
import ApiBindings.Proofs.ConstantPositions
import ApiBindings.Proofs.Constness
import ApiBindings.Proofs.DecimalNumbers
import ApiBindings.Proofs.Declarations
import ApiBindings.Proofs.DistinctEntities
import ApiBindings.Proofs.DocumentForms
import ApiBindings.Proofs.DocumentReading
import ApiBindings.Proofs.DocumentTexts
import ApiBindings.Proofs.Emission
import ApiBindings.Proofs.EnclosingPairs
import ApiBindings.Proofs.EnumValues
import ApiBindings.Proofs.EscapedNames
import ApiBindings.Proofs.ExactRegistry
import ApiBindings.Proofs.ExpansionBound
import ApiBindings.Proofs.FileTrees
import ApiBindings.Proofs.FileViews
import ApiBindings.Proofs.FlattenedStructs
import ApiBindings.Proofs.FloatLiterals
import ApiBindings.Proofs.FormTexts
import ApiBindings.Proofs.Generation
import ApiBindings.Proofs.Indentation
import ApiBindings.Proofs.IntegerLiterals
import ApiBindings.Proofs.Interleavings
import ApiBindings.Proofs.JsonText
import ApiBindings.Proofs.KeptCharacters
import ApiBindings.Proofs.Lexemes
import ApiBindings.Proofs.MethodNames
import ApiBindings.Proofs.NameTable
import ApiBindings.Proofs.NumberReading
import ApiBindings.Proofs.Parentheses
import ApiBindings.Proofs.PassedNames
import ApiBindings.Proofs.ProblemPlaces
import ApiBindings.Proofs.ProblemRows
import ApiBindings.Proofs.ProperNames
import ApiBindings.Proofs.RecordLayout
import ApiBindings.Proofs.RecordReading
import ApiBindings.Proofs.ReportedCycles
import ApiBindings.Proofs.ScriptText
import ApiBindings.Proofs.SpellingLayout
import ApiBindings.Proofs.StructFields
import ApiBindings.Proofs.TextReading
import ApiBindings.Proofs.Trail
import ApiBindings.Proofs.TransparentTypedefs
import ApiBindings.Proofs.TypedefChains
import ApiBindings.Proofs.TypedefTargets
import ApiBindings.Proofs.Unfolding
import ApiBindings.Proofs.ValueReading
import ApiBindings.Proofs.Volumes
import ApiBindings.Proofs.WellFormed
import ApiBindings.Registry.Basic
import ApiBindings.Registry.Build
import ApiBindings.Registry.Chain
import ApiBindings.Registry.Check
import ApiBindings.Registry.Lowering
import ApiBindings.Registry.Problem
import ApiBindings.Registry.ScalarType
import ApiBindings.Registry.Stats
import ApiBindings.Store.Basic
import ApiBindings.Store.FileTree
import ApiBindings.Store.Generate
import ApiBindings.Store.Load
import ApiBindings.Store.Path
import ApiBindings.Text.Blank
import ApiBindings.Text.Printable
import ApiBindings.Text.Quoted
import ApiBindings.Text.Terminal
import ApiBindings.Types.Expansion
import ApiBindings.Types.Native
import ApiBindings.Types.Resolution
import ApiBindings.Types.Resolve
import ApiBindings.Types.Resolving
import ApiBindings.Types.SharedMemo
import ApiBindings.Types.Spelling
