import StateLint.StateArray.Definition
import StateLint.StateClass
import StateLint.Json.Printer
import StateLint.Json.Reader
import StateLint.State.Json
import StateLint.ClientScript
import StateLint.ServerScript
import StateLint.Model
import StateLint.Checks.Battery
import StateLint.Outcome
import StateLint.ActionListing
import StateLint.Migration.Json
import StateLint.ServerScript.Json
import StateLint.Settings.Json
import StateLint.Sources.Json
import StateLint.Yaml.Node
import StateLint.Settings.Yaml
import StateLint.Project
import StateLint.FileSystem.Snapshot
import StateLint.Main
import StateLint.Proofs.Checks.Certificate
import StateLint.Proofs.Checks.MarkedAction
import StateLint.Proofs.Migration
import StateLint.Proofs.FileOrder
import StateLint.Proofs.StateArray.RoundTrip
import StateLint.Proofs.StateClass.RoundTrip
import StateLint.Proofs.TransitionList
import StateLint.Proofs.CommandLine.Presentation
import StateLint.Proofs.SourceRole
import StateLint.Proofs.FileSystem.Listing
import StateLint.Proofs.Loading
import StateLint.Proofs.Text.LineBreak
import StateLint.Proofs.State.LineBreak
import StateLint.Proofs.StateArray.LineBreak
import StateLint.Proofs.LineBreak
import StateLint.Proofs.Overview
import StateLint.Proofs.ServerScript.Progression
import StateLint.Proofs.SetupMethod
import StateLint.Proofs.Checks.RequestedMethod
import StateLint.Proofs.Checks.SharedId
import StateLint.Proofs.MigrationStatus
import StateLint.Proofs.MigrationCount
import StateLint.Proofs.ActionList
import StateLint.Proofs.Checks.Reachability
import StateLint.Proofs.Checks.Subgraph
import StateLint.Proofs.Text.Cut
import StateLint.Proofs.ServerScript.PlayerAction
import StateLint.Proofs.ServerScript.Sending
import StateLint.Proofs.ServerScript.SendStatement
import StateLint.Proofs.Report
import StateLint.Proofs.Selection
import StateLint.Proofs.State.Build
import StateLint.Proofs.Json.RoundTrip
import StateLint.Proofs.Sources.Build
import StateLint.Proofs.StateArray.Split
import StateLint.Proofs.NormalForm.Rounds
