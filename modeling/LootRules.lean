import LootRules.Editor.Command
import LootRules.Folder
import LootRules.Inspector.Request
import LootRules.Main
import LootRules.Proofs.Condition.Expression
import LootRules.Proofs.Editor.Bounds
import LootRules.Proofs.Editor.FlatText
import LootRules.Proofs.Editor.Refusal
import LootRules.Proofs.Readings
import LootRules.Proofs.Rule.OfItem
import LootRules.Proofs.Rule.RoundTrip
import LootRules.Proofs.RuleFile
import LootRules.Proofs.Session.Persistence
import LootRules.Proofs.Text.Columns
import LootRules.Proofs.Text.Lines
import LootRules.Proofs.Text.LowerCase
import LootRules.Proofs.Editor.Saving
import LootRules.Session
import LootRules.Proofs.Editor.Place
import LootRules.Proofs.Editor.Kills
import LootRules.Proofs.Editor.Cutting
import LootRules.Proofs.Editor.Search
import LootRules.Proofs.Session.History
import LootRules.Proofs.Condition.Extent
import LootRules.Proofs.FailingOpen
import LootRules.Proofs.Editor.Typing
import LootRules.Proofs.Editor.Unsaved
import LootRules.Proofs.Editor.Reopening
import LootRules.Proofs.Inspection
import LootRules.Proofs.Rule.Named
import LootRules.Proofs.Rule.Parts
import LootRules.Proofs.Rule.Eluding
import LootRules.Proofs.Editor.Landing
import LootRules.Proofs.Condition.Descent
import LootRules.Proofs.Rule.Phrasing
import LootRules.Proofs.Editor.Toggling
import LootRules.Proofs.Editor.Flagging
import LootRules.Proofs.Condition.Comparison
import LootRules.Proofs.Rule.Narrowing
import LootRules.Proofs.RuleFile.Limits
import LootRules.Proofs.Editor.PlayerCondition
import LootRules.Proofs.FlagSet
import LootRules.Proofs.Yank.Text
import LootRules.Proofs.Rule.Appearance
import LootRules.Proofs.Rule.Quality
import LootRules.Proofs.Text.Bytes
