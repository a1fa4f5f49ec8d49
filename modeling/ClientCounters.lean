import ClientCounters.Counter.Interleaving
import ClientCounters.Logging.Setup
import ClientCounters.Proofs.Service.Serving
import ClientCounters.Settings.Json
import ClientCounters.Proofs.Cache.Failures
import ClientCounters.Proofs.Cache.Fence
import ClientCounters.Proofs.Cache.SingleFlight
import ClientCounters.Proofs.Cache.Recency
import ClientCounters.Proofs.Cache.Statistics
import ClientCounters.Proofs.Counter.Interleaving
import ClientCounters.Proofs.Key.Attributes
import ClientCounters.Proofs.Meter.Agreement
import ClientCounters.Proofs.Meter.Validation
import ClientCounters.Proofs.Meter.Counting
import ClientCounters.Proofs.Meter.Order
import ClientCounters.Proofs.Meter.Names
import ClientCounters.Proofs.Meter.Defaults
import ClientCounters.Proofs.Settings.Json
import ClientCounters.Proofs.Normalization
import ClientCounters.Proofs.Client.Compatibility
import ClientCounters.Proofs.Key.Faults
import ClientCounters.Proofs.Cache.Displacement
import ClientCounters.Proofs.Decimal.Quantity
import ClientCounters.Proofs.Meter.Consultation
import ClientCounters.Proofs.Settings.Environment
import ClientCounters.Proofs.Key.Parameters
import ClientCounters.Proofs.Client.Platform
import ClientCounters.Proofs.Meter.Skipping
