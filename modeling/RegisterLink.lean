import RegisterLink.Proofs.Call.Deadline
import RegisterLink.Proofs.Call.Delivery
import RegisterLink.Proofs.Descriptor.Matching
import RegisterLink.Proofs.Descriptor.Reading
import RegisterLink.Proofs.Descriptor.Repacking
import RegisterLink.Proofs.Endpoint.Address
import RegisterLink.Proofs.Likeness.Granularity
import RegisterLink.Proofs.Message.Items
import RegisterLink.Proofs.Message.Lossless
import RegisterLink.Proofs.Message.Report
import RegisterLink.Proofs.Session.Lockstep
import RegisterLink.Proofs.Version.Display
import RegisterLink.Script.Run
import RegisterLink.Text.Utf8.RoundTrip
