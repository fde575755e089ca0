import TreeLint.Command.Basic
import TreeLint.Command.Options
import TreeLint.Command.Process
import TreeLint.Config.Basic
import TreeLint.Config.Decode
import TreeLint.Config.Defaults
import TreeLint.Config.Encode
import TreeLint.Config.Entries
import TreeLint.Config.Load
import TreeLint.Config.Validation
import TreeLint.Config.Value
import TreeLint.Config.Variable
import TreeLint.FileTree.Basic
import TreeLint.FileTree.Edit
import TreeLint.FileTree.Selection
import TreeLint.FileTree.Walk
import TreeLint.Host
import TreeLint.Linter.Language
import TreeLint.Linter.Placeholder
import TreeLint.Linter.Policy
import TreeLint.Linter.Program
import TreeLint.Linter.Registry
import TreeLint.Main
import TreeLint.Path.Basic
import TreeLint.Path.Extension
import TreeLint.Path.Set
import TreeLint.Path.Wildcard
import TreeLint.Proofs.Command.Assignment
import TreeLint.Proofs.Command.Entering
import TreeLint.Proofs.Command.Quiet
import TreeLint.Proofs.Command.Telling
import TreeLint.Proofs.Command.Verbosity
import TreeLint.Proofs.Command.WholeRun
import TreeLint.Proofs.Command.Writing
import TreeLint.Proofs.Command.Written
import TreeLint.Proofs.Config.CustomFile
import TreeLint.Proofs.Config.EnvironmentRoot
import TreeLint.Proofs.Config.FirstProblem
import TreeLint.Proofs.Config.LayerKeys
import TreeLint.Proofs.Config.Merging
import TreeLint.Proofs.Config.Priority
import TreeLint.Proofs.Config.Records
import TreeLint.Proofs.Config.RepositoryFile
import TreeLint.Proofs.Config.RoundTrip
import TreeLint.Proofs.Config.SourceRoot
import TreeLint.Proofs.Config.Validity
import TreeLint.Proofs.FileTree.Ascending
import TreeLint.Proofs.FileTree.Branches
import TreeLint.Proofs.FileTree.Ending
import TreeLint.Proofs.FileTree.Followed
import TreeLint.Proofs.FileTree.Footprint
import TreeLint.Proofs.FileTree.Located
import TreeLint.Proofs.FileTree.Reached
import TreeLint.Proofs.FileTree.Selected
import TreeLint.Proofs.FileTree.Stages
import TreeLint.Proofs.FileTree.Walked
import TreeLint.Proofs.FileTree.Ways
import TreeLint.Proofs.Linter.Acceptance
import TreeLint.Proofs.Linter.Arguments
import TreeLint.Proofs.Linter.Findings
import TreeLint.Proofs.Linter.Reports
import TreeLint.Proofs.Linter.Resolution
import TreeLint.Proofs.Linter.Spellings
import TreeLint.Proofs.Linter.Substitution
import TreeLint.Proofs.Linter.Verdicts
import TreeLint.Proofs.Path.Canonical
import TreeLint.Proofs.Path.Composition
import TreeLint.Proofs.Path.Extensions
import TreeLint.Proofs.Path.Joined
import TreeLint.Proofs.Path.Places
import TreeLint.Proofs.Path.Readings
import TreeLint.Proofs.Path.Relative
import TreeLint.Proofs.Repository.ChangeLists
import TreeLint.Proofs.Repository.ChangedNames
import TreeLint.Proofs.Run.Directories
import TreeLint.Proofs.Run.Exactness
import TreeLint.Proofs.Run.Exclusion
import TreeLint.Proofs.Run.Feeding
import TreeLint.Proofs.Run.LinkedRoots
import TreeLint.Proofs.Run.Prediction
import TreeLint.Proofs.Run.Repetition
import TreeLint.Proofs.Run.Stopping
import TreeLint.Proofs.Run.Turns
import TreeLint.Proofs.Text.Cutting
import TreeLint.Proofs.Text.HeldBytes
import TreeLint.Proofs.Text.SeenLines
import TreeLint.Proofs.Text.Utf8
import TreeLint.Repository.Changes
import TreeLint.Repository.Discovery
import TreeLint.Repository.Grafts
import TreeLint.Repository.Layers
import TreeLint.Repository.Settings
import TreeLint.Run.Event
import TreeLint.Run.Execution
import TreeLint.Run.Report
import TreeLint.Sandbox.Archive
import TreeLint.Sandbox.Arithmetic
import TreeLint.Sandbox.Builtins
import TreeLint.Sandbox.Condition
import TreeLint.Sandbox.Evaluation
import TreeLint.Sandbox.Expansion
import TreeLint.Sandbox.Format
import TreeLint.Sandbox.Grammar
import TreeLint.Sandbox.Handling
import TreeLint.Sandbox.Launching
import TreeLint.Sandbox.Machine
import TreeLint.Sandbox.Options
import TreeLint.Sandbox.Pattern
import TreeLint.Sandbox.Script
import TreeLint.Sandbox.Shell
import TreeLint.Sandbox.Signals
import TreeLint.Sandbox.Tools
import TreeLint.Sandbox.Tools.Calculating
import TreeLint.Sandbox.Tools.Comparing
import TreeLint.Sandbox.Tools.Editing
import TreeLint.Sandbox.Tools.Edits
import TreeLint.Sandbox.Tools.Finding
import TreeLint.Sandbox.Tools.Inputs
import TreeLint.Sandbox.Tools.Listing
import TreeLint.Sandbox.Tools.Naming
import TreeLint.Sandbox.Tools.Ordering
import TreeLint.Sandbox.Tools.Passing
import TreeLint.Sandbox.Tools.Reshaping
import TreeLint.Sandbox.Tools.Searching
import TreeLint.Sandbox.Tools.Starting
import TreeLint.Sandbox.Tools.Translating
import TreeLint.Sandbox.Versions.Addresses
import TreeLint.Sandbox.Versions.Applying
import TreeLint.Sandbox.Versions.Arguments
import TreeLint.Sandbox.Versions.Attributes
import TreeLint.Sandbox.Versions.Bisecting
import TreeLint.Sandbox.Versions.Blanks
import TreeLint.Sandbox.Versions.Colors
import TreeLint.Sandbox.Versions.Combining
import TreeLint.Sandbox.Versions.Committing
import TreeLint.Sandbox.Versions.Configuring
import TreeLint.Sandbox.Versions.Creating
import TreeLint.Sandbox.Versions.Demands
import TreeLint.Sandbox.Versions.Describing
import TreeLint.Sandbox.Versions.Desk
import TreeLint.Sandbox.Versions.Differences
import TreeLint.Sandbox.Versions.Elsewhere
import TreeLint.Sandbox.Versions.Halving
import TreeLint.Sandbox.Versions.Histories
import TreeLint.Sandbox.Versions.Ignored
import TreeLint.Sandbox.Versions.Inscribing
import TreeLint.Sandbox.Versions.Joining
import TreeLint.Sandbox.Versions.Lens
import TreeLint.Sandbox.Versions.Naming
import TreeLint.Sandbox.Versions.Navigating
import TreeLint.Sandbox.Versions.Nested
import TreeLint.Sandbox.Versions.Nesting
import TreeLint.Sandbox.Versions.Patch
import TreeLint.Sandbox.Versions.PatchReading
import TreeLint.Sandbox.Versions.Pathspec
import TreeLint.Sandbox.Versions.Program
import TreeLint.Sandbox.Versions.Questions
import TreeLint.Sandbox.Versions.Reconciling
import TreeLint.Sandbox.Versions.References
import TreeLint.Sandbox.Versions.Renames
import TreeLint.Sandbox.Versions.Revisions
import TreeLint.Sandbox.Versions.Seeing
import TreeLint.Sandbox.Versions.Settings
import TreeLint.Sandbox.Versions.Shelving
import TreeLint.Sandbox.Versions.Showing
import TreeLint.Sandbox.Versions.Site
import TreeLint.Sandbox.Versions.Sparsity
import TreeLint.Sandbox.Versions.Staging
import TreeLint.Sandbox.Versions.Substituting
import TreeLint.Sandbox.Versions.Switching
import TreeLint.Sandbox.Versions.Tallies
import TreeLint.Sandbox.Versions.Thinning
import TreeLint.Sandbox.Versions.Updating
import TreeLint.Sandbox.Versions.WorkTree
import TreeLint.Sandbox.World
import TreeLint.Text.Blank
import TreeLint.Text.Charset
import TreeLint.Text.Control
import TreeLint.Text.Digest
import TreeLint.Text.Escape
import TreeLint.Text.LineChanges
import TreeLint.Text.Lines
import TreeLint.Text.Moment
import TreeLint.Text.Numeral
import TreeLint.Text.Octet
import TreeLint.Text.Quoting
import TreeLint.Text.RawByte
import TreeLint.Text.Regex.Basic
import TreeLint.Text.Regex.Reading
import TreeLint.Text.Style
import TreeLint.Text.Utf8
import TreeLint.Toml.Document
import TreeLint.Toml.Draft
import TreeLint.Toml.Quoted
import TreeLint.Toml.Scalar
