import Turtle.Number.Binary
import Turtle.Number.Shortest
import Turtle.Number.Notation
import Turtle.Number.Remainder
import Turtle.Number.Fixed
import Turtle.Text.Blank
import Turtle.Text.DecimalDigit
import Turtle.Text.Printable
import Turtle.Text.Quoted
import Turtle.Number.Reading
import Turtle.Datum
import Turtle.Command.Basic
import Turtle.Fault
import Turtle.Command.Build
import Turtle.Program.Leaves
import Turtle.Settings
import Turtle.Geometry.Pose
import Turtle.Geometry.Trace
import Turtle.Program.Edit
import Turtle.Workspace
import Turtle.Run.Engine
import Turtle.Run.Trial
import Turtle.Run.Controller
import Turtle.Run.Pause
import Turtle.Run.Tasks
import Turtle.Measure.Distance
import Turtle.Measure.Path
import Turtle.Measure.Frame
import Turtle.Text.Csv
import Turtle.Logging
import Turtle.Picture.Box
import Turtle.Picture.Face
import Turtle.Picture.Label
import Turtle.Picture.Ticks
import Turtle.Picture.TickText
import Turtle.Picture.Panel
import Turtle.Picture.Markup
import Turtle.Picture.Axes
import Turtle.Picture.Figure
import Turtle.Gallery.Layout
import Turtle.Gallery.Show
import Turtle.Proofs.Replay
import Turtle.Proofs.Cancellation
import Turtle.Proofs.Sharing
import Turtle.Proofs.Publishing
import Turtle.Proofs.Listeners
import Turtle.Proofs.Restart
import Turtle.Proofs.Session
import Turtle.Proofs.Separation
import Turtle.Proofs.Echo
import Turtle.Proofs.Unrolling
import Turtle.Proofs.Insertion
import Turtle.Proofs.Identifiers
import Turtle.Proofs.Showing
import Turtle.Proofs.Removal
import Turtle.Proofs.Positions
import Turtle.Proofs.EditCost
import Turtle.Proofs.Counting
import Turtle.Proofs.Pruning
import Turtle.Proofs.Authoring
import Turtle.Proofs.Pausing
