import RouteLint.Main
import RouteLint.Report.Reader
import RouteLint.Proofs.Coupling
import RouteLint.Proofs.Data.Table
import RouteLint.Proofs.Typing.Places
import RouteLint.Proofs.Typing.Graphs
import RouteLint.Proofs.Typing.Resolving
import RouteLint.Proofs.Project.Growth
import RouteLint.Proofs.Project.Site
import RouteLint.Proofs.Text.Utf8
import RouteLint.Proofs.Routes.Insertion
import RouteLint.Proofs.Disk.Shape
import RouteLint.Proofs.Routes.Rewrapping
import RouteLint.Proofs.Data.Once
import RouteLint.Proofs.Routes.Verdicts
import RouteLint.Proofs.Routes.Progress
import RouteLint.Proofs.Routes.Loading
import RouteLint.Proofs.Routes.PlainRun
import RouteLint.Proofs.Routes.RepairRun
import RouteLint.Proofs.Routes.Deciding
import RouteLint.Proofs.Routes.Reports
import RouteLint.Proofs.Routes.Saving
import RouteLint.Proofs.Routes.Aftermath
import RouteLint.Proofs.Routes.CalmRun
import RouteLint.Proofs.Routes.Rechecking
import RouteLint.Proofs.Routes.Rejudging
import RouteLint.Proofs.Routes.RepairAgain
import RouteLint.Proofs.Routes.Atomicity
import RouteLint.Proofs.Routes.ExactlyOnce
import RouteLint.Proofs.Routes.Orders
import RouteLint.Proofs.Data.Related
import RouteLint.Proofs.Syntax.Comments
import RouteLint.Proofs.Typing.Comments.Texts
import RouteLint.Proofs.Typing.Comments.Properties
import RouteLint.Proofs.Typing.Comments.Parameters
import RouteLint.Proofs.Typing.Glossary
import RouteLint.Proofs.Typing.Unfolding
import RouteLint.Proofs.Routes.Comments
import RouteLint.Proofs.Json.Grammar
import RouteLint.Proofs.Json.Documents
import RouteLint.Proofs.Command.Checking
import RouteLint.Proofs.Routes.Aliases
import RouteLint.Proofs.Watch.Delivery
import RouteLint.Proofs.Routes.JudgedMember
import RouteLint.Proofs.Json.TrailingCommas
import RouteLint.Proofs.Project.ResolvedMembers
import RouteLint.Proofs.Typing.Lookups
import RouteLint.Proofs.Project.VisibleTypes
import RouteLint.Proofs.Typing.ProperTables
import RouteLint.Proofs.Project.Readings
import RouteLint.Proofs.Typing.MergedTexts
import RouteLint.Proofs.Project.MergedVerdicts
import RouteLint.Proofs.Typing.GenericAliases
import RouteLint.Proofs.Project.PassedArguments
import RouteLint.Proofs.Project.Precedence
import RouteLint.Proofs.Routes.WrappedDefaults
import RouteLint.Proofs.Project.Edits
import RouteLint.Proofs.Project.Shadows
import RouteLint.Proofs.Routes.Overlaps
import RouteLint.Proofs.Project.KeptScopes
import RouteLint.Proofs.Project.Registry
import RouteLint.Proofs.Project.ConfigChains
import RouteLint.Proofs.Project.InheritedOptions
import RouteLint.Proofs.Project.PatternBases
import RouteLint.Proofs.Data.Ranks
import RouteLint.Proofs.Disk.Places
import RouteLint.Proofs.Project.Targets
import RouteLint.Proofs.Project.DefaultTypes
import RouteLint.Proofs.Project.QuotedNames
import RouteLint.Proofs.Text.Slashes
import RouteLint.Proofs.Watch.Checkouts
import RouteLint.Proofs.Syntax.Scans
import RouteLint.Proofs.Text.Positions
import RouteLint.Proofs.Syntax.Spelling
import RouteLint.Proofs.Project.ShownAsWritten
import RouteLint.Proofs.Disk.Trees
import RouteLint.Proofs.Glob.Shell
import RouteLint.Proofs.Glob.Segments
import RouteLint.Proofs.Glob.Selection
import RouteLint.Proofs.Project.Captures
import RouteLint.Proofs.Project.EditPairs
import RouteLint.Proofs.Project.EditOrders
