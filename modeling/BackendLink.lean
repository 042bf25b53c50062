import BackendLink.Config.Written
import BackendLink.Main
import BackendLink.Transport.Receive
import BackendLink.Proofs.ClientIdentity
import BackendLink.Proofs.Config.Document
import BackendLink.Proofs.Config.Layers
import BackendLink.Proofs.Config.RoundTrip
import BackendLink.Proofs.Program
import BackendLink.Proofs.Reencoding
import BackendLink.Proofs.Relay
import BackendLink.Proofs.Representation
import BackendLink.Proofs.Retry
import BackendLink.Proofs.ServerIdentity
import BackendLink.Proofs.SizeLimit
import BackendLink.Proofs.Tls.Faults
import BackendLink.Proofs.TornSend
import BackendLink.Proofs.Transport.Accounting
import BackendLink.Proofs.Transport.Delivery
