import TypedJsx.Main
import TypedJsx.Proofs.Arrow
import TypedJsx.Proofs.Conversion.Accounting
import TypedJsx.Proofs.Conversion.Comments
import TypedJsx.Proofs.Conversion.Interfaces
import TypedJsx.Proofs.Extraction.Exact
import TypedJsx.Proofs.Scope.Capture
import TypedJsx.Proofs.Signature.Composition
import TypedJsx.Proofs.Batch
import TypedJsx.Proofs.Comment.Placement
import TypedJsx.Proofs.Comment.Printed
import TypedJsx.Proofs.FileSystem.Path
import TypedJsx.Proofs.FileSystem.Writing
import TypedJsx.Proofs.CommandLine.Output
import TypedJsx.Proofs.Scope.Redeclaration
import TypedJsx.Proofs.Conversion.Level
import TypedJsx.Proofs.Conversion.Prologue
import TypedJsx.Proofs.CommandLine.Containment
import TypedJsx.Proofs.Signature.Erasure
import TypedJsx.Proofs.Signature.Rewriting
import TypedJsx.Proofs.Json.Entities
import TypedJsx.Proofs.Conversion.ReactImport
import TypedJsx.Proofs.Signature.Failure
import TypedJsx.Proofs.Signature.Idempotence
import TypedJsx.Proofs.Markup
import TypedJsx.Proofs.Component
import TypedJsx.Proofs.Hook
import TypedJsx.Proofs.Comment.Absorption
import TypedJsx.Proofs.Diagnostic.Category
import TypedJsx.Proofs.Diagnostic.Location
import TypedJsx.Proofs.Text.Offset
import TypedJsx.Proofs.Diagnostic.Snippet
import TypedJsx.Proofs.Interface.Key
import TypedJsx.Proofs.Interface.Comment
import TypedJsx.Proofs.Archive
import TypedJsx.Proofs.CommandLine.Phases
