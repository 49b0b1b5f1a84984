import SharedWeights.Connection
import SharedWeights.Session
import SharedWeights.Proofs.Connection.Lockstep
import SharedWeights.Proofs.Message.Size
import SharedWeights.Proofs.Service.Serialization
import SharedWeights.Proofs.Transport.Delivery
import SharedWeights.Proofs.Server.Ledger
import SharedWeights.Proofs.Connection.Cut
import SharedWeights.Proofs.Message.Grammar
import SharedWeights.Proofs.Server.Dimension
import SharedWeights.Proofs.Server.Accumulation
import SharedWeights.Proofs.Server.Replies
import SharedWeights.Proofs.Transport.Borders
import SharedWeights.Proofs.Message.Rereading
import SharedWeights.Proofs.Message.Extent
import SharedWeights.Proofs.Server.Traces
import SharedWeights.Proofs.Server.Stopping
import SharedWeights.Proofs.Service.Isolation
import SharedWeights.Proofs.Service.Alone
import SharedWeights.Proofs.Service.Backlog
import SharedWeights.Proofs.Service.Sessions
import SharedWeights.Proofs.Transport.Outcomes
import SharedWeights.Proofs.Message.Verdicts
import SharedWeights.Proofs.Server.Interchange
import SharedWeights.Proofs.Server.Queue
import SharedWeights.Proofs.Transport.Sending
import SharedWeights.Proofs.Connection.Turns
import SharedWeights.Proofs.Endpoint.Display
import SharedWeights.Proofs.Text.Numeral
import SharedWeights.Proofs.Endpoint.Grammar
import SharedWeights.Proofs.Binary32.Literal
import SharedWeights.Proofs.Text.Blank
import SharedWeights.Proofs.Text.Quoted
import SharedWeights.Proofs.Settings.Variables
import SharedWeights.Proofs.Server.Journal
import SharedWeights.Proofs.Connection.Unserved
import SharedWeights.Proofs.Frame.Accounting
import SharedWeights.Proofs.Binary32.Layout
import SharedWeights.Proofs.Binary32.Printed
