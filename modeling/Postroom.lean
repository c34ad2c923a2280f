import Postroom.CommandLine.LogFile
import Postroom.House
import Postroom.Main
import Postroom.Proofs.Access.Admission
import Postroom.Proofs.Authority
import Postroom.Proofs.House.Calls
import Postroom.Proofs.House.Entrance
import Postroom.Proofs.House.ExactlyOnce
import Postroom.Proofs.House.InPlace
import Postroom.Proofs.House.Independence
import Postroom.Proofs.House.RoundTrip
import Postroom.Proofs.Mailbox.EventLog
import Postroom.Proofs.Monitoring.Grammar
import Postroom.Proofs.Monitoring.Listings
import Postroom.Proofs.Relay.AllOrNothing
import Postroom.Proofs.Relay.Drainage
import Postroom.Proofs.Relay.Reporting
import Postroom.Proofs.Submission.Collecting
import Postroom.Proofs.Submission.Expectations
import Postroom.Proofs.Wire.Course
import Postroom.Proofs.Wire.Endings
import Postroom.Proofs.Wording
import Postroom.Proofs.WorkerPool
import Postroom.Submission.PreparedPeer
