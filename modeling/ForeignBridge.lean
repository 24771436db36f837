import ForeignBridge.Bridge.Build
import ForeignBridge.Bridge.Ids
import ForeignBridge.Bridge.Objects
import ForeignBridge.Bridge.Raised
import ForeignBridge.Bridge.Read
import ForeignBridge.Bridge.Start
import ForeignBridge.Bridge.World
import ForeignBridge.CAbi
import ForeignBridge.Config
import ForeignBridge.Error
import ForeignBridge.Fields
import ForeignBridge.Foreign.Attributes
import ForeignBridge.Foreign.Call
import ForeignBridge.Foreign.Catalog
import ForeignBridge.Foreign.Cell
import ForeignBridge.Foreign.Characters.Case
import ForeignBridge.Foreign.Characters.Classes
import ForeignBridge.Foreign.Characters.Identifier
import ForeignBridge.Foreign.Characters.Names
import ForeignBridge.Foreign.Characters.Normal
import ForeignBridge.Foreign.Characters.Printable
import ForeignBridge.Foreign.CodePoints
import ForeignBridge.Foreign.Core
import ForeignBridge.Foreign.Execution.Assign
import ForeignBridge.Foreign.Execution.Evaluate
import ForeignBridge.Foreign.Execution.Execute
import ForeignBridge.Foreign.Execution.Functions
import ForeignBridge.Foreign.Execution.Parameters
import ForeignBridge.Foreign.Execution.Places
import ForeignBridge.Foreign.Execution.Raise
import ForeignBridge.Foreign.Filling
import ForeignBridge.Foreign.Fixed
import ForeignBridge.Foreign.Grammar.Expressions
import ForeignBridge.Foreign.Grammar.Reading
import ForeignBridge.Foreign.Grammar.Statements
import ForeignBridge.Foreign.Heap
import ForeignBridge.Foreign.Importing.Abstract
import ForeignBridge.Foreign.Importing.Finders
import ForeignBridge.Foreign.Importing.Import
import ForeignBridge.Foreign.Importing.Paths
import ForeignBridge.Foreign.Linking.Constants
import ForeignBridge.Foreign.Linking.Link
import ForeignBridge.Foreign.Linking.Mentions
import ForeignBridge.Foreign.Linking.View
import ForeignBridge.Foreign.Machine
import ForeignBridge.Foreign.Members
import ForeignBridge.Foreign.Names
import ForeignBridge.Foreign.Operations.Compare
import ForeignBridge.Foreign.Operations.Iterate
import ForeignBridge.Foreign.Operations.Keys
import ForeignBridge.Foreign.Operations.Label
import ForeignBridge.Foreign.Operations.Operate
import ForeignBridge.Foreign.Operations.Text
import ForeignBridge.Foreign.Prelude
import ForeignBridge.Foreign.Routines.Arguments
import ForeignBridge.Foreign.Routines.Builtins
import ForeignBridge.Foreign.Routines.Bytes
import ForeignBridge.Foreign.Routines.Callables
import ForeignBridge.Foreign.Routines.Classes
import ForeignBridge.Foreign.Routines.Dictionaries
import ForeignBridge.Foreign.Routines.Doubles
import ForeignBridge.Foreign.Routines.Encodings
import ForeignBridge.Foreign.Routines.Exceptions
import ForeignBridge.Foreign.Routines.Formats
import ForeignBridge.Foreign.Routines.Integers
import ForeignBridge.Foreign.Routines.Items
import ForeignBridge.Foreign.Routines.Iterators
import ForeignBridge.Foreign.Routines.Kinship
import ForeignBridge.Foreign.Routines.Lineage
import ForeignBridge.Foreign.Routines.Lists
import ForeignBridge.Foreign.Routines.Mathematics
import ForeignBridge.Foreign.Routines.Modules
import ForeignBridge.Foreign.Routines.Objects
import ForeignBridge.Foreign.Routines.Patterns
import ForeignBridge.Foreign.Routines.Percent
import ForeignBridge.Foreign.Routines.Properties
import ForeignBridge.Foreign.Routines.Searching
import ForeignBridge.Foreign.Routines.Sets
import ForeignBridge.Foreign.Routines.Slices
import ForeignBridge.Foreign.Routines.Sorting
import ForeignBridge.Foreign.Routines.Spelling
import ForeignBridge.Foreign.Routines.System
import ForeignBridge.Foreign.Routines.Texts
import ForeignBridge.Foreign.Routines.Tuples
import ForeignBridge.Foreign.Routines.Views
import ForeignBridge.Foreign.Scalar
import ForeignBridge.Foreign.Settle
import ForeignBridge.Foreign.Start
import ForeignBridge.Foreign.Token
import ForeignBridge.Foreign.Tree
import ForeignBridge.Handle
import ForeignBridge.Json.Basic
import ForeignBridge.Json.Reader
import ForeignBridge.Number.Arithmetic
import ForeignBridge.Number.Complex
import ForeignBridge.Number.Digits
import ForeignBridge.Number.Double
import ForeignBridge.Number.Layout
import ForeignBridge.Number.Shortest
import ForeignBridge.Number.Special
import ForeignBridge.Proofs.Bridge.Act
import ForeignBridge.Proofs.Bridge.Agreement
import ForeignBridge.Proofs.Bridge.Blind
import ForeignBridge.Proofs.Bridge.Bootstrap
import ForeignBridge.Proofs.Bridge.Construction
import ForeignBridge.Proofs.Bridge.Copying
import ForeignBridge.Proofs.Bridge.Documents
import ForeignBridge.Proofs.Bridge.Failures
import ForeignBridge.Proofs.Bridge.Holding
import ForeignBridge.Proofs.Bridge.Lookups
import ForeignBridge.Proofs.Bridge.Making
import ForeignBridge.Proofs.Bridge.Observation
import ForeignBridge.Proofs.Bridge.Passing
import ForeignBridge.Proofs.Bridge.Reading
import ForeignBridge.Proofs.Bridge.Rejection
import ForeignBridge.Proofs.Bridge.RoundTrip
import ForeignBridge.Proofs.Bridge.SearchPath
import ForeignBridge.Proofs.Bridge.Tracebacks
import ForeignBridge.Proofs.Bridge.Translation
import ForeignBridge.Proofs.Bridge.Unfolding
import ForeignBridge.Proofs.Fields
import ForeignBridge.Proofs.Foreign.Attributes
import ForeignBridge.Proofs.Foreign.Calls
import ForeignBridge.Proofs.Foreign.Copies
import ForeignBridge.Proofs.Foreign.Filling
import ForeignBridge.Proofs.Foreign.Fixed
import ForeignBridge.Proofs.Foreign.Grafts
import ForeignBridge.Proofs.Foreign.Heap
import ForeignBridge.Proofs.Foreign.Imports
import ForeignBridge.Proofs.Foreign.Intact
import ForeignBridge.Proofs.Foreign.Keeps
import ForeignBridge.Proofs.Foreign.Keys
import ForeignBridge.Proofs.Foreign.Names
import ForeignBridge.Proofs.Foreign.Reclaim
import ForeignBridge.Proofs.Foreign.Release
import ForeignBridge.Proofs.Foreign.Routines
import ForeignBridge.Proofs.Foreign.Run
import ForeignBridge.Proofs.Foreign.Settle
import ForeignBridge.Proofs.Foreign.Slots
import ForeignBridge.Proofs.Foreign.Tampering
import ForeignBridge.Proofs.Foreign.Unhashable
import ForeignBridge.Proofs.Ids.Calls
import ForeignBridge.Proofs.Ids.Log
import ForeignBridge.Proofs.Ids.Lookup
import ForeignBridge.Proofs.Ids.Released
import ForeignBridge.Proofs.Ids.Run
import ForeignBridge.Proofs.Interface.Answers
import ForeignBridge.Proofs.Interface.Documents
import ForeignBridge.Proofs.Interface.ReadBack
import ForeignBridge.Proofs.Interface.Refusals
import ForeignBridge.Proofs.Interface.Searched
import ForeignBridge.Proofs.Interface.Starts
import ForeignBridge.Proofs.Json.Completeness
import ForeignBridge.Proofs.Json.Normal
import ForeignBridge.Proofs.Json.Numbers
import ForeignBridge.Proofs.Json.Reader
import ForeignBridge.Proofs.Json.Spelling
import ForeignBridge.Proofs.Json.Writer
import ForeignBridge.Proofs.Number.Arithmetic
import ForeignBridge.Proofs.Number.Hash
import ForeignBridge.Proofs.Number.Largest
import ForeignBridge.Proofs.Number.Rounding
import ForeignBridge.Proofs.Number.Shortest
import ForeignBridge.Proofs.Ownership.Balance
import ForeignBridge.Proofs.Ownership.Interface
import ForeignBridge.Proofs.Ownership.Ledger
import ForeignBridge.Proofs.Ownership.Objects
import ForeignBridge.Proofs.Ownership.Raised
import ForeignBridge.Proofs.Ownership.Reachable
import ForeignBridge.Proofs.Ownership.Release
import ForeignBridge.Proofs.Ownership.Start
import ForeignBridge.Proofs.Ownership.Workspace
import ForeignBridge.Proofs.Pending.Interface
import ForeignBridge.Proofs.Pending.Objects
import ForeignBridge.Proofs.Pending.Quiet
import ForeignBridge.Proofs.Pending.Run
import ForeignBridge.Proofs.Registry
import ForeignBridge.Proofs.Text.Utf8
import ForeignBridge.Proofs.Text.Without
import ForeignBridge.Proofs.Value.Dictionary
import ForeignBridge.Proofs.Value.Document
import ForeignBridge.Proofs.Value.Equality
import ForeignBridge.Proofs.Value.Faults
import ForeignBridge.Proofs.Value.Members
import ForeignBridge.Proofs.Value.Normal
import ForeignBridge.Proofs.Value.Numbers
import ForeignBridge.Proofs.Value.Objects
import ForeignBridge.Proofs.Value.Unwritable
import ForeignBridge.Registry
import ForeignBridge.Session
import ForeignBridge.Text.Outline
import ForeignBridge.Text.Printable
import ForeignBridge.Text.Ranges
import ForeignBridge.Text.Utf8
import ForeignBridge.Value.Basic
import ForeignBridge.Value.Document
import ForeignBridge.Value.Outline
import ForeignBridge.Workspace.Basic
import ForeignBridge.Workspace.Step
