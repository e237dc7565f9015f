import Amalgam.Main
import Amalgam.Store
import Amalgam.Proofs.Forest
import Amalgam.Proofs.Graph.Edges
import Amalgam.Proofs.Graph.Order
import Amalgam.Proofs.Graph.Spanning
import Amalgam.Proofs.Walk.Descent
import Amalgam.Proofs.Walk.Reach
import Amalgam.Proofs.Plan.Headers
import Amalgam.Proofs.Text.Lines
import Amalgam.Proofs.Line.Sites
import Amalgam.Proofs.Directive
import Amalgam.Proofs.Layout
import Amalgam.Proofs.Path.Chars
import Amalgam.Proofs.Walk.Lifted
import Amalgam.Proofs.Walk.Root
import Amalgam.Proofs.Plan.Includes
import Amalgam.Proofs.Plan.Unit
import Amalgam.Proofs.Plan.Lifting
import Amalgam.Proofs.Walk.Run
import Amalgam.Proofs.Path.Rooted
import Amalgam.Proofs.Plan.Order
import Amalgam.Proofs.Plan.Again
import Amalgam.Proofs.Path.Clean
import Amalgam.Proofs.Exclusion
import Amalgam.Proofs.Path.Components
import Amalgam.Proofs.Plan.Agreement
import Amalgam.Proofs.Plan.Failure
import Amalgam.Proofs.Plan.Excluding
import Amalgam.Proofs.CommandLine.Stages
import Amalgam.Proofs.Path.Route
import Amalgam.Proofs.Path.Within
import Amalgam.Proofs.Plan.Labels
import Amalgam.Proofs.Graph.Cycles
import Amalgam.Proofs.Graph.Recursion
import Amalgam.Proofs.Graph.Sorted
import Amalgam.Proofs.Line.Grammar
import Amalgam.Proofs.Path.Canonical
import Amalgam.Proofs.Path.Join
import Amalgam.Proofs.Plan.Readings
import Amalgam.Proofs.Walk.Vertices
import Amalgam.Proofs.Path.Strip
import Amalgam.Proofs.Graph.Faithful
import Amalgam.Proofs.Walk.Effort
import Amalgam.Proofs.FileTree
import Amalgam.Proofs.Lifted
import Amalgam.Proofs.Path.Dir
import Amalgam.Proofs.Walk.Reads
import Amalgam.Proofs.Settings
import Amalgam.Proofs.FileTree
