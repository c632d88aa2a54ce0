import Switchboard.Api.Front
import Switchboard.Metrics.Histogram
import Switchboard.Registry.PatternCache
import Switchboard.Service.Identifier
import Switchboard.Settings.Load
import Switchboard.Settings.Pool
import Switchboard.Proofs.Registry.Routes
import Switchboard.Proofs.Registry.RoundTrips
import Switchboard.Proofs.Service.Balance
import Switchboard.Proofs.Service.Refinement
import Switchboard.Proofs.Service.Sessions
import Switchboard.Proofs.Service.Chronicle
import Switchboard.Proofs.Service.Grounds
import Switchboard.Proofs.Service.Links
import Switchboard.Proofs.Service.Freshness
import Switchboard.Proofs.Service.Windows
import Switchboard.Proofs.Service.Matches
import Switchboard.Proofs.Service.Removals
import Switchboard.Proofs.Service.Causes
import Switchboard.Proofs.Api.Simulation
import Switchboard.Proofs.Api.Secrecy
import Switchboard.Proofs.Registry.Callers
import Switchboard.Proofs.Registry.Stability
import Switchboard.Proofs.Settings.Masking
import Switchboard.Proofs.Api.Paths
import Switchboard.Proofs.Service.Disclosure
import Switchboard.Proofs.Api.Refusals
import Switchboard.Proofs.Service.FailedRequests
import Switchboard.Proofs.Service.Delays
import Switchboard.Proofs.Registry.Rearrangements
import Switchboard.Proofs.Service.Turns
import Switchboard.Proofs.Registry.KeptPatterns
import Switchboard.Proofs.Service.Delivery
import Switchboard.Proofs.Service.Outages
import Switchboard.Proofs.Api.Forms
import Switchboard.Proofs.Store.Holdings
import Switchboard.Proofs.Api.Failures
import Switchboard.Proofs.Settings.Exactness
import Switchboard.Proofs.Settings.Precedence
