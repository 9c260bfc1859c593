import ClassLoom.Bytes
import ClassLoom.Classpath.Lookup
import ClassLoom.Classpath.Root
import ClassLoom.CommandLine.Arguments
import ClassLoom.CommandLine.Entry
import ClassLoom.CommandLine.Grammar
import ClassLoom.CommandLine.Help
import ClassLoom.CommandLine.Reading
import ClassLoom.Config.Environment
import ClassLoom.Config.File
import ClassLoom.Config.Keeping
import ClassLoom.Config.Layers
import ClassLoom.Config.Validation
import ClassLoom.Config.Value
import ClassLoom.Decimal.Double
import ClassLoom.Decimal.Reading
import ClassLoom.Failure
import ClassLoom.Files.Error
import ClassLoom.Files.Guarded
import ClassLoom.Files.Operations
import ClassLoom.Files.Path
import ClassLoom.Files.Tree
import ClassLoom.Log.Level
import ClassLoom.Log.Loggers
import ClassLoom.Log.Record
import ClassLoom.Log.Writing
import ClassLoom.Main
import ClassLoom.Names
import ClassLoom.Pattern.Complaint
import ClassLoom.Pattern.Cursor
import ClassLoom.Pattern.Escape
import ClassLoom.Pattern.Expression
import ClassLoom.Pattern.Matching
import ClassLoom.Pattern.PathFilter
import ClassLoom.Pattern.Reading
import ClassLoom.Rebuild.Rebuilder
import ClassLoom.Rebuild.Serializing
import ClassLoom.Rebuild.Staging
import ClassLoom.Rebuild.Swap
import ClassLoom.Run.Artifact
import ClassLoom.Run.Command
import ClassLoom.Run.Directory
import ClassLoom.Run.Enumeration
import ClassLoom.Run.Jar
import ClassLoom.Run.Processing
import ClassLoom.Run.Report
import ClassLoom.Run.Request
import ClassLoom.Run.Resolving
import ClassLoom.Run.Target
import ClassLoom.Run.WriteBack
import ClassLoom.Session.Configuration
import ClassLoom.Session.Desk
import ClassLoom.Session.Logging
import ClassLoom.Session.Script
import ClassLoom.Text.CodeRange
import ClassLoom.Text.Digit
import ClassLoom.Text.Identifier
import ClassLoom.Text.LetterCase
import ClassLoom.Text.Printable
import ClassLoom.Text.Quoted
import ClassLoom.Text.SharedCapital
import ClassLoom.Text.Utf8
import ClassLoom.Text.Word
import ClassLoom.Transformer.Invocation
import ClassLoom.Transformer.Plugin
import ClassLoom.Transformer.Resolution
import ClassLoom.Workspace
import ClassLoom.Yaml.Cursor
import ClassLoom.Yaml.Node
import ClassLoom.Yaml.Reading
import ClassLoom.Yaml.Refusal
import ClassLoom.Yaml.Scalar
import ClassLoom.Yaml.Tag
import ClassLoom.Yaml.Token
import ClassLoom.Zip.Archive
import ClassLoom.Zip.CodePage
import ClassLoom.Zip.Crc32
import ClassLoom.Zip.Deflate
import ClassLoom.Zip.Inflate
import ClassLoom.Zip.Record
import ClassLoom.Zip.Timestamp
import ClassLoom.Proofs.Files.Places
import ClassLoom.Proofs.Files.Changes
import ClassLoom.Proofs.Files.Guarded
import ClassLoom.Proofs.Frame
import ClassLoom.Proofs.Rebuild.Beside
import ClassLoom.Proofs.Rebuild.Copy
import ClassLoom.Proofs.Rebuild.Preparing
import ClassLoom.Proofs.Rebuild.Swapping
import ClassLoom.Proofs.Run.Atomicity
import ClassLoom.Proofs.Run.Completing
import ClassLoom.Proofs.Run.Configuring
import ClassLoom.Proofs.Run.Directory
import ClassLoom.Proofs.Run.OwnBytes
import ClassLoom.Proofs.Run.Rebuilding
import ClassLoom.Proofs.Failing
import ClassLoom.Proofs.Rebuild.Failing
import ClassLoom.Proofs.Run.Failing
import ClassLoom.Proofs.Run.GoingOn
import ClassLoom.Proofs.Rebuild.Repacking
import ClassLoom.Proofs.Rebuild.Putting
import ClassLoom.Proofs.Rebuild.Succeeding
import ClassLoom.Proofs.Rebuild.Outcomes
import ClassLoom.Proofs.Rebuild.AllOrNothing
import ClassLoom.Proofs.Rebuild.Calls
import ClassLoom.Proofs.Rebuild.Accepting
import ClassLoom.Proofs.Run.Idling
import ClassLoom.Proofs.Config.Precedence
import ClassLoom.Proofs.Config.Variables
import ClassLoom.Proofs.Rebuild.Objects
import ClassLoom.Proofs.Run.Unwinding
import ClassLoom.Proofs.Run.Releasing
import ClassLoom.Proofs.Run.Accounting
import ClassLoom.Proofs.Run.Traversing
import ClassLoom.Proofs.Classpath.Searching
import ClassLoom.Proofs.Classpath.Packaging
import ClassLoom.Proofs.Transformer.Resolving
import ClassLoom.Proofs.Config.Naming
import ClassLoom.Proofs.Pattern.Refusing
import ClassLoom.Proofs.Config.Validating
import ClassLoom.Proofs.Run.Converting
import ClassLoom.Proofs.Config.Setting
import ClassLoom.Proofs.Config.Agreeing
import ClassLoom.Proofs.Names
import ClassLoom.Proofs.Classpath.Confining
import ClassLoom.Proofs.Transformer.Counting
import ClassLoom.Proofs.Files.Copying
import ClassLoom.Proofs.Run.Matching
