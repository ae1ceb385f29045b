import Statechart.Draft.Call
import Statechart.Main
import Statechart.Session.Call
import Statechart.Proofs.Registry.Writes
import Statechart.Proofs.Registry.Indexed
import Statechart.Proofs.Machine.Forest
import Statechart.Proofs.Machine.Nesting
import Statechart.Proofs.Machine.Roles
import Statechart.Proofs.Draft.History
import Statechart.Proofs.Draft.Log
import Statechart.Proofs.Definition.Effect
import Statechart.Proofs.Definition.Isolation
import Statechart.Proofs.Diagnosis.Reachability
import Statechart.Proofs.Session.Moves
import Statechart.Proofs.Session.Confinement
import Statechart.Proofs.Definition.Composition
import Statechart.Proofs.Definition.Comments
import Statechart.Proofs.Machine.Replay
import Statechart.Proofs.Draft.Replay
import Statechart.Proofs.Definition.Repetition
import Statechart.Proofs.Draft.Registration
import Statechart.Proofs.Draft.References
import Statechart.Proofs.Injection.Findings
import Statechart.Proofs.Definition.Grammar
import Statechart.Proofs.Injection.Order
import Statechart.Proofs.Definition.Rules
import Statechart.Proofs.Definition.Lexing
import Statechart.Proofs.Definition.Acceptance
import Statechart.Proofs.Definition.Layout
import Statechart.Proofs.Session.Suggestions
import Statechart.Proofs.Session.Frame
import Statechart.Proofs.Diagnosis.Closure
import Statechart.Proofs.Draft.Start
import Statechart.Proofs.Session.Finality
import Statechart.Proofs.Session.Input
import Statechart.Proofs.Console.Menu
import Statechart.Proofs.Session.Bubbling
import Statechart.Proofs.Text.Trim
import Statechart.Proofs.Session.Firing
import Statechart.Proofs.Session.Rounds
import Statechart.Proofs.Diagnosis.Determinism
import Statechart.Proofs.Diagnosis.Bundles
import Statechart.Proofs.Injection.Saturation
import Statechart.Proofs.Injection.Locality
import Statechart.Proofs.Session.Execution
import Statechart.Proofs.Definition.Anonymous
import Statechart.Proofs.Definition.Binding
import Statechart.Proofs.Definition.Parentage
import Statechart.Proofs.Machine.Outline
