import RemoteMessaging.Text.Hex
import RemoteMessaging.Transport.Accept
import RemoteMessaging.Proofs.Advertising
import RemoteMessaging.Proofs.Calls.Alone
import RemoteMessaging.Proofs.Calls.Budget
import RemoteMessaging.Proofs.Calls.Counting
import RemoteMessaging.Proofs.Calls.Failures
import RemoteMessaging.Proofs.Calls.Live
import RemoteMessaging.Proofs.Creation
import RemoteMessaging.Proofs.Delivery
import RemoteMessaging.Proofs.Inbound
import RemoteMessaging.Proofs.Json.Partial
import RemoteMessaging.Proofs.Json.RoundTrip
import RemoteMessaging.Proofs.OrderedOutcomes
import RemoteMessaging.Proofs.Overrides
import RemoteMessaging.Proofs.Permits
import RemoteMessaging.Proofs.PortLists
import RemoteMessaging.Proofs.Probing
import RemoteMessaging.Proofs.ReadTask
import RemoteMessaging.Proofs.Reception.Alone
import RemoteMessaging.Proofs.Sequences
import RemoteMessaging.Proofs.Session.Alone
import RemoteMessaging.Proofs.Session.Releasing
import RemoteMessaging.Proofs.Unresolved
