import RuleNet.Build.Scripted
import RuleNet.Callback.Expression
import RuleNet.Proofs.Build.Classification
import RuleNet.Proofs.Build.Consistent
import RuleNet.Proofs.Build.Frames
import RuleNet.Proofs.Build.Grouping
import RuleNet.Proofs.Build.Registries
import RuleNet.Proofs.Build.Unordered
import RuleNet.Proofs.Fold.Extremes
import RuleNet.Proofs.Fold.Keys
import RuleNet.Proofs.Fold.Reversal
import RuleNet.Proofs.Match.Conservative
import RuleNet.Proofs.Match.Queries
import RuleNet.Proofs.Network.Ancestry
import RuleNet.Proofs.Network.WellFormed
import RuleNet.Proofs.Session.InitialFact
import RuleNet.Proofs.Session.Invisible
import RuleNet.Proofs.Session.Order
import RuleNet.Proofs.Session.Round
import RuleNet.Proofs.Session.Safety
import RuleNet.Proofs.Session.Unshared
import RuleNet.Proofs.Trace.Faithful
import RuleNet.Proofs.Trace.Mirrored
import RuleNet.Proofs.Trace.Spelled
import RuleNet.Proofs.Trace.Window
