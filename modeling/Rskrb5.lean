import Rskrb5.CCache.Config
import Rskrb5.CCache.Names
import Rskrb5.CCache.Truncation
import Rskrb5.Client.AutoRenewal
import Rskrb5.Client.Delegation
import Rskrb5.Client.Failover
import Rskrb5.Client.Kpasswd
import Rskrb5.Client.Login
import Rskrb5.Client.Names
import Rskrb5.Client.Ownership
import Rskrb5.Client.Preferences
import Rskrb5.Client.Realms
import Rskrb5.Client.Reload
import Rskrb5.Client.Serving
import Rskrb5.Client.Sessions
import Rskrb5.Client.TicketCache
import Rskrb5.Client.Update
import Rskrb5.Crypto.Des3Keys
import Rskrb5.Crypto.Overflow
import Rskrb5.EncParts.Exact
import Rskrb5.Gss.Failures
import Rskrb5.Gss.Framing
import Rskrb5.Gss.Initiator
import Rskrb5.Gss.Sealed
import Rskrb5.Http.Agreement
import Rskrb5.Kadmin.Exchange
import Rskrb5.Kadmin.Frames
import Rskrb5.Kdc.Requests
import Rskrb5.Keytab.Format
import Rskrb5.Keytab.Holes
import Rskrb5.Keytab.Lookup
import Rskrb5.Krb5Conf.Durations
import Rskrb5.Krb5Conf.HostCase
import Rskrb5.Krb5Conf.Sections
import Rskrb5.KrbCred.RoundTrip
import Rskrb5.Pac.Counts
import Rskrb5.Pac.Groups
import Rskrb5.Pac.Search
import Rskrb5.Pac.Verification
import Rskrb5.Service.Identity
import Rskrb5.Service.Pruning
import Rskrb5.Service.Recording
import Rskrb5.Spnego.Indices
import Rskrb5.Spnego.Numbers
import Rskrb5.Spnego.RoundTrip
import Rskrb5.Time.Instants
