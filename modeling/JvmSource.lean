import JvmSource.CommandLine.Program
import JvmSource.Main
import JvmSource.Storage.FileTree
import JvmSource.Writer.Call
import JvmSource.Layout.Call
import JvmSource.Proofs.Import.Bindings
import JvmSource.Proofs.Resolver.Offer
import JvmSource.Proofs.Resolver.Recursion
import JvmSource.Proofs.Resolver.Stability
import JvmSource.Proofs.Identifier
import JvmSource.Proofs.Text.Trim
import JvmSource.Proofs.TypeRef.Descent
import JvmSource.Proofs.TypeRef.Pieces
import JvmSource.Proofs.TypeRef.Cuts
import JvmSource.Proofs.TypeRef.RoundTrip
import JvmSource.Proofs.Resolver.Lossless
import JvmSource.Proofs.Layout.Symbols
import JvmSource.Proofs.Layout.Growth
import JvmSource.Proofs.Layout.Lines
import JvmSource.Proofs.PackageLine
import JvmSource.Proofs.Resolver.Naming
import JvmSource.Proofs.Import.Accounting
import JvmSource.Proofs.Writer.Imports
import JvmSource.Proofs.Text.Units
import JvmSource.Proofs.DocComment.Clean
import JvmSource.Proofs.Template
import JvmSource.Proofs.Text.Pieces
import JvmSource.Proofs.DocComment.Pieces
import JvmSource.Proofs.DocComment.Seams
import JvmSource.Proofs.Writer.DocComment
import JvmSource.Proofs.Resolver.Shortened
import JvmSource.Proofs.Resolver.Requests
import JvmSource.Proofs.Resolver.Exclusion
import JvmSource.Proofs.Writer.Table
import JvmSource.Proofs.TypeRef.Grammar
import JvmSource.Proofs.TypeRef.Search
import JvmSource.Proofs.TypeRef.Spacing
import JvmSource.Proofs.Resolver.Reordering
import JvmSource.Proofs.Layout.Braces
import JvmSource.Proofs.Layout.Readings
import JvmSource.Proofs.Layout.Content
import JvmSource.Proofs.Storage.FileTree
import JvmSource.Proofs.Writer.Save
import JvmSource.Proofs.Writer.Layout
import JvmSource.Proofs.Writer.SameBody
import JvmSource.Proofs.Layout.Comments
import JvmSource.Proofs.Writer.Comments
import JvmSource.Proofs.Writer.Package
import JvmSource.Proofs.Json.Grammar
import JvmSource.Proofs.Text.Digits
import JvmSource.Proofs.Json.Numbers
import JvmSource.Proofs.Json.Strings
import JvmSource.Proofs.Json.Values
import JvmSource.Proofs.Script.Encoding
import JvmSource.Proofs.Script.Decoding
import JvmSource.Proofs.Resolver.Loop
import JvmSource.Proofs.TypeRef.Queue
import JvmSource.Proofs.TypeRef.Reading
import JvmSource.Proofs.Dialect.Native
import JvmSource.Proofs.Import.Sorting
import JvmSource.Proofs.Import.Block
import JvmSource.Proofs.Import.Groups
import JvmSource.Proofs.Writer.OwnClass
import JvmSource.Proofs.DocComment.Meetings
import JvmSource.Proofs.Layout.Unended
import JvmSource.Proofs.Resolver.Chain
import JvmSource.Proofs.Writer.Ambient
import JvmSource.Proofs.Unicode.CharSet
import JvmSource.Proofs.Pattern.Stretch
import JvmSource.Proofs.Pattern.Identifier
import JvmSource.Proofs.PackageLine.Search
import JvmSource.Proofs.Template.Placeholders
import JvmSource.Proofs.Charset
import JvmSource.Proofs.Layout.Cuts
import JvmSource.Proofs.Pattern.Search
import JvmSource.Proofs.Pattern.Input
import JvmSource.Proofs.Pattern.Items
import JvmSource.Proofs.Pattern.Brackets
import JvmSource.Proofs.Pattern.Reading
import JvmSource.Proofs.Pattern.Ordered
import JvmSource.Proofs.Resolver.WholeMatch
import JvmSource.Proofs.SourceHash
