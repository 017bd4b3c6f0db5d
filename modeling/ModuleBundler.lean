import ModuleBundler.Text.Blank
import ModuleBundler.Text.Quoted
import ModuleBundler.Text.Replace
import ModuleBundler.Decimal.Hundredths
import ModuleBundler.Text.IdentifierTables
import ModuleBundler.Path.Basic
import ModuleBundler.Path.Name
import ModuleBundler.Store.Basic
import ModuleBundler.Store.Disk
import ModuleBundler.Store.Memory
import ModuleBundler.Build.Error
import ModuleBundler.Graph.Asset
import ModuleBundler.Graph.Basic
import ModuleBundler.Graph.Registry
import ModuleBundler.Resolution
import ModuleBundler.Build.Options
import ModuleBundler.Discovery.Basic
import ModuleBundler.Ecma.StringLiteral
import ModuleBundler.Extract.Basic
import ModuleBundler.Extract.Lines
import ModuleBundler.Output.Loader
import ModuleBundler.Output.Render
import ModuleBundler.Bundler
import ModuleBundler.Ecma.Dialect
import ModuleBundler.Ecma.StringValue
import ModuleBundler.Ecma.Token
import ModuleBundler.Ecma.Gap
import ModuleBundler.Ecma.Numeral
import ModuleBundler.Ecma.RegularExpression
import ModuleBundler.Ecma.Template
import ModuleBundler.Ecma.Word
import ModuleBundler.Ecma.Cursor
import ModuleBundler.Ecma.Tree
import ModuleBundler.Ecma.Grammar.Basic
import ModuleBundler.Ecma.Grammar.Pattern
import ModuleBundler.Ecma.Grammar.Template
import ModuleBundler.Ecma.Operator
import ModuleBundler.Ecma.Grammar.Function
import ModuleBundler.Ecma.Grammar.Access
import ModuleBundler.Ecma.Grammar.Expression
import ModuleBundler.Ecma.Grammar.Class
import ModuleBundler.Ecma.Grammar.Declaration
import ModuleBundler.Ecma.Grammar.Element
import ModuleBundler.Ecma.Grammar.Primary
import ModuleBundler.Ecma.Grammar.Exchange
import ModuleBundler.Ecma.Grammar.Statement
import ModuleBundler.Ecma.Grammar.Whole
import ModuleBundler.Extract.Ecma
import ModuleBundler.Command.Arguments
import ModuleBundler.Command.Report
import ModuleBundler.Main
import ModuleBundler.Proofs.Discovery.Step
import ModuleBundler.Proofs.Discovery.Run
import ModuleBundler.Proofs.Discovery.Recursive
import ModuleBundler.Proofs.Discovery.Invariant
import ModuleBundler.Proofs.Discovery.Reachability
import ModuleBundler.Proofs.Discovery.Faithful
import ModuleBundler.Proofs.Discovery.Cycles
import ModuleBundler.Proofs.Ecma.Literal
import ModuleBundler.Proofs.Output.Delimited
import ModuleBundler.Proofs.Output.Wiring
import ModuleBundler.Proofs.Path.Steps
import ModuleBundler.Proofs.Resolution
import ModuleBundler.Proofs.Discovery.Work
import ModuleBundler.Proofs.Options
import ModuleBundler.Proofs.Store.Key
import ModuleBundler.Proofs.Termination
import ModuleBundler.Proofs.Aliases
import ModuleBundler.Proofs.Discovery.Mirror
import ModuleBundler.Proofs.Path.Place
import ModuleBundler.Proofs.Relocation
import ModuleBundler.Proofs.Store.Write
import ModuleBundler.Proofs.Writing
import ModuleBundler.Proofs.Store.Directories
import ModuleBundler.Proofs.Destination
import ModuleBundler.Proofs.Discovery.Locality
import ModuleBundler.Proofs.Rebuild
import ModuleBundler.Proofs.History
import ModuleBundler.Proofs.Canonical
import ModuleBundler.Proofs.Discovery.Calls
import ModuleBundler.Proofs.Ecma.Reading
import ModuleBundler.Proofs.Ecma.WholeNumber
import ModuleBundler.Proofs.Output.ObjectLiteral
import ModuleBundler.Proofs.Ecma.Requests
import ModuleBundler.Proofs.Extract.Printed
import ModuleBundler.Proofs.Respelling
import ModuleBundler.Proofs.Candidates
import ModuleBundler.Proofs.StableNames
import ModuleBundler.Proofs.Violation
import ModuleBundler.Proofs.Repeats
import ModuleBundler.Proofs.Store.LastWrite
import ModuleBundler.Proofs.Discovery.Shortcut
import ModuleBundler.Proofs.Acceptance
import ModuleBundler.Proofs.Naming
