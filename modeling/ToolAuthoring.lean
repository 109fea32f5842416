import ToolAuthoring.KeyMap.Lemmas
import ToolAuthoring.Main
import ToolAuthoring.Node.Codec
import ToolAuthoring.Proofs.CommandLine.Walk
import ToolAuthoring.Proofs.Wizard.Affordances
import ToolAuthoring.Proofs.Wizard.Editing
import ToolAuthoring.Proofs.Wizard.Signals
import ToolAuthoring.Proofs.Wizard.Submission
import ToolAuthoring.Proofs.Wizard.WayOut
import ToolAuthoring.Wizard.Action
import ToolAuthoring.Wizard.Rehearsal
import ToolAuthoring.Proofs.Files.Writing
import ToolAuthoring.Proofs.Wizard.Flags
import ToolAuthoring.Proofs.Wizard.Messages
import ToolAuthoring.Proofs.Draft.Decoding
import ToolAuthoring.Proofs.CommandLine.Saving
import ToolAuthoring.Proofs.Draft.LatestEdits
import ToolAuthoring.Proofs.Draft.RoundTrip
import ToolAuthoring.Proofs.CommandLine.Setting
import ToolAuthoring.Proofs.Node.RoundTrip
import ToolAuthoring.Proofs.Node.Staging
import ToolAuthoring.Proofs.Node.Survival
import ToolAuthoring.Proofs.Form.Filling
import ToolAuthoring.Proofs.Node.Sessions
import ToolAuthoring.Proofs.Form.NodeEdits
import ToolAuthoring.Proofs.Form.FilledSettings
import ToolAuthoring.Proofs.Form.Connections
import ToolAuthoring.Proofs.Form.ConnectionEdits
import ToolAuthoring.Proofs.Form.Overviews
import ToolAuthoring.Proofs.Form.Addresses
import ToolAuthoring.Proofs.Form.Events
import ToolAuthoring.Proofs.Form.Registration
import ToolAuthoring.Proofs.Wizard.CodeState
import ToolAuthoring.Proofs.Wizard.Excerpts
