import ClusterConsole.Keyboard
import ClusterConsole.Main
import ClusterConsole.Screen.View
import ClusterConsole.Proofs.Session.History
import ClusterConsole.Proofs.Session.Change
import ClusterConsole.Proofs.Session.Inbox
import ClusterConsole.Proofs.Session.Tally
import ClusterConsole.Proofs.Session.Conservation
import ClusterConsole.Proofs.Execution
import ClusterConsole.Proofs.Session.LastMessage
import ClusterConsole.Proofs.Text.Percent
import ClusterConsole.Proofs.Text.Pieces
import ClusterConsole.Proofs.Json.Decimal
import ClusterConsole.Proofs.Json.Members
import ClusterConsole.Proofs.Json.Quoted
import ClusterConsole.Proofs.Json.Grammar
import ClusterConsole.Proofs.Json.Reading
import ClusterConsole.Proofs.Json.RoundTrip
import ClusterConsole.Proofs.Json.Typed
import ClusterConsole.Proofs.Cluster.Spec
import ClusterConsole.Proofs.Request
import ClusterConsole.Proofs.Cluster.Omission
import ClusterConsole.Proofs.Outcome
import ClusterConsole.Proofs.StatusArea.AutoHide
import ClusterConsole.Proofs.Form
import ClusterConsole.Proofs.Session.Forms
import ClusterConsole.Proofs.Session.Once
import ClusterConsole.Proofs.Command
import ClusterConsole.Proofs.Session.Isolation
import ClusterConsole.Proofs.Url.Path
import ClusterConsole.Proofs.Url.Authority
import ClusterConsole.Proofs.Url.Web
import ClusterConsole.Proofs.Settings.BaseUrl
import ClusterConsole.Proofs.Http.Details
import ClusterConsole.Proofs.Session.Waiting
import ClusterConsole.Proofs.CommandLine.Flags
import ClusterConsole.Proofs.CommandLine.Written
import ClusterConsole.Proofs.Settings.Reading
import ClusterConsole.Proofs.Settings.Change
import ClusterConsole.Proofs.Settings.Given
import ClusterConsole.Proofs.Json.Pretty
import ClusterConsole.Proofs.Json.Shape
import ClusterConsole.Proofs.Outcome.Detail
import ClusterConsole.Proofs.Url.Sendable
import ClusterConsole.Proofs.Http.Received
import ClusterConsole.Proofs.Http.Contained
import ClusterConsole.Proofs.CommandLine.Spaced
import ClusterConsole.Proofs.Session.Deadline
import ClusterConsole.Proofs.Form.WellFormed
import ClusterConsole.Proofs.Session.WellFormed
import ClusterConsole.Proofs.Cluster.Replicas
import ClusterConsole.Proofs.Json.NumberText
import ClusterConsole.Proofs.Json.Rows
import ClusterConsole.Proofs.Screen.Highlight
import ClusterConsole.Proofs.Screen.Cells
import ClusterConsole.Proofs.Screen.Scrolling
import ClusterConsole.Proofs.Session.Typing
import ClusterConsole.Proofs.Screen.Shown
import ClusterConsole.Proofs.Http.Excerpt
import ClusterConsole.Proofs.Text.Grapheme
import ClusterConsole.Proofs.Screen.Bounds
import ClusterConsole.Proofs.Screen.Fitting
import ClusterConsole.Proofs.Screen.Focus
import ClusterConsole.Proofs.StatusArea.Scroll
import ClusterConsole.Proofs.Screen.Wrap
import ClusterConsole.Proofs.Screen.Remaining
import ClusterConsole.Proofs.Screen.Heading
