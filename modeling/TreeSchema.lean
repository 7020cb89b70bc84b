import TreeSchema.Catalog.BuiltIn
import TreeSchema.Catalog.File
import TreeSchema.Definition.Match
import TreeSchema.Document.Form
import TreeSchema.Template.Language
import TreeSchema.Verification.Batch
import TreeSchema.Verification.File
import TreeSchema.Proofs.Binding
import TreeSchema.Proofs.Tree
import TreeSchema.Proofs.Conformance
import TreeSchema.Proofs.Cutting
import TreeSchema.Verification.Direct
import TreeSchema.Verification.Loop
import TreeSchema.Proofs.Direct
import TreeSchema.Proofs.Recursion
import TreeSchema.Template.Written
import TreeSchema.Proofs.Typing
import TreeSchema.Proofs.Trail
import TreeSchema.Proofs.Reading
import TreeSchema.Proofs.Elements
import TreeSchema.Proofs.Siblings
import TreeSchema.Proofs.BuiltIn
import TreeSchema.Proofs.LockStep
import TreeSchema.Proofs.Dependence
import TreeSchema.Proofs.Growth
import TreeSchema.Definition.Build
import TreeSchema.Proofs.Uniqueness
import TreeSchema.Proofs.Declaration
import TreeSchema.Proofs.Keys
import TreeSchema.Proofs.CatalogFile
import TreeSchema.Proofs.Visits
import TreeSchema.Proofs.Tracing
import TreeSchema.Proofs.Limits
import TreeSchema.Proofs.Location
import TreeSchema.Proofs.Accounts
import TreeSchema.Proofs.Ending
import TreeSchema.Proofs.Obstacles
import TreeSchema.Proofs.Positions
import TreeSchema.Proofs.Replacement
import TreeSchema.Proofs.HeaderVersions
import TreeSchema.Schema.Construction
import TreeSchema.Proofs.Construction
import TreeSchema.Proofs.HeaderReadings
import TreeSchema.Proofs.Lookups
import TreeSchema.Proofs.Names
import TreeSchema.Proofs.Explanations
import TreeSchema.Document.Building
import TreeSchema.Proofs.Building
import TreeSchema.Proofs.Repetition
import TreeSchema.Proofs.Outlines
import TreeSchema.Proofs.Refusals
import TreeSchema.Template.Printed
import TreeSchema.Proofs.Printing
import TreeSchema.Proofs.Delimiters
import TreeSchema.Proofs.Samples
import TreeSchema.Verification.Workers
import TreeSchema.Proofs.Batch
import TreeSchema.Proofs.Extensions
import TreeSchema.Proofs.Letters
import TreeSchema.Proofs.Casing
import TreeSchema.Proofs.PathCase
import TreeSchema.Template.Cursor
import TreeSchema.Proofs.Brackets
import TreeSchema.Proofs.Cursor
