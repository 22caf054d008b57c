import ExplorerClient.Proofs.Course
import ExplorerClient.Proofs.Template
import ExplorerClient.Session.Run
import ExplorerClient.Session.Trial
import ExplorerClient.Proofs.Sent
import ExplorerClient.Proofs.Retrying
import ExplorerClient.Proofs.Replayed
import ExplorerClient.Proofs.Logged
import ExplorerClient.Proofs.Severed
import ExplorerClient.Proofs.Cancelled
import ExplorerClient.Proofs.Classified
import ExplorerClient.Proofs.Required
import ExplorerClient.Proofs.Recorded
import ExplorerClient.Proofs.Quoted
import ExplorerClient.Proofs.Spelled
import ExplorerClient.Proofs.ReadBack
import ExplorerClient.Proofs.Each
import ExplorerClient.Proofs.Processed
import ExplorerClient.Proofs.Chosen
import ExplorerClient.Proofs.Matched
import ExplorerClient.Proofs.Derived
import ExplorerClient.Proofs.Stepped
import ExplorerClient.Proofs.Ended
import ExplorerClient.Proofs.Leading
import ExplorerClient.Proofs.Restored
import ExplorerClient.Proofs.Rekeyed
import ExplorerClient.Proofs.Blind
import ExplorerClient.Proofs.Concealed
import ExplorerClient.Proofs.Gradual
import ExplorerClient.Proofs.Available
import ExplorerClient.Proofs.Payload
import ExplorerClient.Proofs.Batch
import ExplorerClient.Proofs.Cleaned
import ExplorerClient.Proofs.Escaped
import ExplorerClient.Proofs.Filled
import ExplorerClient.Proofs.Capped
import ExplorerClient.Proofs.Rising
import ExplorerClient.Proofs.Wrapped
import ExplorerClient.Proofs.Members
import ExplorerClient.Proofs.Elements
import ExplorerClient.Proofs.Replaced
import ExplorerClient.Proofs.Halves
import ExplorerClient.Proofs.Variables
