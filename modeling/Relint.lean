import Relint.Main
import Relint.Text.Quoted
import Relint.Proofs.Conversion.Status
import Relint.Proofs.Conversion.Partition
import Relint.Proofs.Conversion.Withdrawal
import Relint.Proofs.Assoc
import Relint.Proofs.Distinct
import Relint.Proofs.Rule.Map
import Relint.Proofs.Conversion.Rerun
import Relint.Proofs.Merge.Accepting
import Relint.Proofs.Conversion.Builtin
import Relint.Proofs.Merge.Targets
import Relint.Proofs.Conversion.Targets
import Relint.Proofs.Merge.Earlier
import Relint.Proofs.Conversion.Priority
import Relint.Proofs.Conversion.Existing
import Relint.Proofs.Conversion.Accounting
import Relint.Proofs.Conversion.Plugins
import Relint.Proofs.Conversion.Disabled
import Relint.Proofs.Comment.Lines
import Relint.Proofs.Conversion.Conflicts
import Relint.Proofs.Conversion.Reordered
import Relint.Proofs.Conversion.Notices
import Relint.Proofs.Conversion.Layout
import Relint.Proofs.Conversion.Severity
import Relint.Proofs.Files.Growth
import Relint.Proofs.Files.Visited
import Relint.Proofs.Files.Action
import Relint.Proofs.Files.WellFormed
import Relint.Proofs.Files.Writing
import Relint.Proofs.Command.Steps
import Relint.Proofs.Command.DryRun
import Relint.Proofs.Command.Options
import Relint.Proofs.Files.Discovery
import Relint.Proofs.Command.Links
import Relint.Proofs.Command.Prediction
import Relint.Proofs.Files.Links
import Relint.Proofs.Merge.Outcome
import Relint.Proofs.Merge.Incremental
import Relint.Proofs.Merge.Rounds
import Relint.Proofs.Conversion.Presets
import Relint.Proofs.Merge.Permuted
import Relint.Proofs.Comment.Translation
import Relint.Proofs.Conversion.Contributions
import Relint.Proofs.Editor.Reordered
import Relint.Proofs.Editor.Applied
import Relint.Proofs.Packages.Scoped
import Relint.Proofs.Converter.Ban
import Relint.Proofs.Config.Loading
import Relint.Proofs.Files.Exclusion
