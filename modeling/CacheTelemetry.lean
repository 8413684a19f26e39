import CacheTelemetry.Catalogue
import CacheTelemetry.Proofs.Collector.Discovery
import CacheTelemetry.Proofs.Collector.Isolation
import CacheTelemetry.Proofs.Collector.Labels
import CacheTelemetry.Proofs.Collector.Relay
import CacheTelemetry.Session.Run
import CacheTelemetry.Settings.Environment
import CacheTelemetry.Settings.File
import CacheTelemetry.Proofs.ObjectName.Grammar
import CacheTelemetry.Proofs.ObjectName.RoundTrip
import CacheTelemetry.Proofs.OrderedMap.History
import CacheTelemetry.Proofs.Collector.Roster
import CacheTelemetry.Proofs.Registry.FiniteMap
import CacheTelemetry.Proofs.Session.Registries
import CacheTelemetry.Proofs.Collector.Documented
import CacheTelemetry.Proofs.Collector.Nameless
import CacheTelemetry.Proofs.Collector.EmptyName
import CacheTelemetry.Proofs.Settings.Origin
import CacheTelemetry.Proofs.Session.Metrics
import CacheTelemetry.Proofs.Session.Reordering
import CacheTelemetry.Proofs.Collector.Account
import CacheTelemetry.Proofs.Collector.Causes
import CacheTelemetry.Proofs.Collector.Protocol
import CacheTelemetry.Proofs.Collector.Patterns
import CacheTelemetry.Proofs.Collector.Sharing
import CacheTelemetry.Proofs.ObjectName.Canonical
import CacheTelemetry.Proofs.Settings.Assignment
import CacheTelemetry.Proofs.Settings.Environment
import CacheTelemetry.Proofs.Settings.File
