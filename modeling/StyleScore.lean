import StyleScore.Intake
import StyleScore.Item.Weight
import StyleScore.Main
import StyleScore.Tree.Workshop
import StyleScore.Web
import StyleScore.Proofs.Tree.Layout
import StyleScore.Proofs.Text.Trim
import StyleScore.Proofs.Tree.Building
import StyleScore.Proofs.Tree.Shape
import StyleScore.Proofs.Tree.Leaves
import StyleScore.Proofs.Selector.Impostor
import StyleScore.Proofs.Report.Outcome
import StyleScore.Proofs.Value.Refusal
import StyleScore.Proofs.Report.Figures
import StyleScore.Proofs.World.Failure
import StyleScore.Proofs.World.Reading
import StyleScore.Proofs.Stopping
import StyleScore.Proofs.Token.Stop
import StyleScore.Proofs.Token.Scope
import StyleScore.Proofs.Token.Seam
import StyleScore.Proofs.Component.Bare
import StyleScore.Proofs.Selector.Combining
import StyleScore.Proofs.Selector.Descent
import StyleScore.Proofs.Selector.Segment
import StyleScore.Proofs.Selector.Listing
import StyleScore.Proofs.Selector.Nesting
import StyleScore.Proofs.Tree.Lineage
import StyleScore.Proofs.Tree.Walk
import StyleScore.Proofs.Selector.Quotation
import StyleScore.Proofs.Item.Bare
import StyleScore.Proofs.Tree.Declared
import StyleScore.Proofs.Tree.Living
import StyleScore.Proofs.Tree.Dropping
import StyleScore.Proofs.Tree.Held
import StyleScore.Proofs.Reader.History
import StyleScore.Proofs.Json.Numeral
import StyleScore.Proofs.Json.Quotation
import StyleScore.Proofs.Json.Reading
import StyleScore.Proofs.Json.Meaning
import StyleScore.Proofs.Disk.Path
import StyleScore.Proofs.Disk.Place
import StyleScore.Proofs.Disk.Saving
import StyleScore.Proofs.World.Writing
import StyleScore.Proofs.Agreement
import StyleScore.Proofs.Report.Summary
import StyleScore.Proofs.Cli.Label
import StyleScore.Proofs.Cli.Output
import StyleScore.Proofs.Report.Markup
import StyleScore.Proofs.Report.Page
import StyleScore.Proofs.World.Confined
import StyleScore.Proofs.Cli.Course
import StyleScore.Proofs.Cli.Isolation
import StyleScore.Proofs.Tree.Enclosing
import StyleScore.Proofs.Item.Places
import StyleScore.Proofs.Tree.Warnings
import StyleScore.Proofs.Value.Faithful
import StyleScore.Proofs.Selector.Tidy
import StyleScore.Proofs.Text.Lower
import StyleScore.Proofs.Text.Spacing
import StyleScore.Proofs.Header.Tidy
import StyleScore.Proofs.Header.Tokens
import StyleScore.Proofs.Header.Keyword
import StyleScore.Proofs.Header.Condition
import StyleScore.Proofs.Header.Profile
import StyleScore.Proofs.Header.Break
import StyleScore.Proofs.Header.Beside
import StyleScore.Proofs.Selector.Balance
import StyleScore.Proofs.Tree.Nested
import StyleScore.Proofs.Selector.Comma
import StyleScore.Proofs.Selector.Joined
import StyleScore.Proofs.Tree.Combinators
import StyleScore.Proofs.Selector.Logical
import StyleScore.Proofs.Cli.Notes
import StyleScore.Proofs.Reader.Loading
import StyleScore.Proofs.Cli.Numbering
import StyleScore.Proofs.Disk.Listing
