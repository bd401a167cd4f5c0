import BeanGauge.Main
import BeanGauge.Proofs.Host.Process
import BeanGauge.Proofs.Host.Table
import BeanGauge.Proofs.Host.Prompt
import BeanGauge.Proofs.Json.Words
import BeanGauge.Proofs.Text.Blank
import BeanGauge.Proofs.Text.Shielded
import BeanGauge.Proofs.Text.Utf8
import BeanGauge.Proofs.Connector.Session
import BeanGauge.Proofs.Check.Cycle
import BeanGauge.Proofs.Catalog
import BeanGauge.Proofs.Exposition.Labels
import BeanGauge.Proofs.Integration.Exclusion
import BeanGauge.Proofs.Check.Samples
import BeanGauge.Proofs.Connector.Lifecycle
import BeanGauge.Proofs.Check.Slots
import BeanGauge.Proofs.Check.History
import BeanGauge.Proofs.Check.Processes
import BeanGauge.Proofs.BeanName
import BeanGauge.Proofs.Check.Isolation
import BeanGauge.Proofs.Connector.Locality
import BeanGauge.Proofs.Check.Emission
import BeanGauge.Proofs.Exposition.Families
import BeanGauge.Proofs.Web
import BeanGauge.Proofs.Host.Framing
import BeanGauge.Proofs.Check.Building
import BeanGauge.Proofs.Config.Acceptance
import BeanGauge.Proofs.Json.Written
import BeanGauge.Proofs.Config.RoundTrip
import BeanGauge.Proofs.Web.Requests
import BeanGauge.Proofs.Metric.Words
import BeanGauge.Proofs.Catalog.Leaves
import BeanGauge.Proofs.Check.Domains
import BeanGauge.Proofs.Check.Standard
import BeanGauge.Proofs.Metric.Normal
import BeanGauge.Proofs.Metric.Parts
import BeanGauge.Proofs.Filter.Pattern
import BeanGauge.Proofs.Integration.Filters
import BeanGauge.Proofs.Exposition.Grouping
import BeanGauge.Proofs.Exposition.Arrangement
import BeanGauge.Proofs.Exposition.Tags
import BeanGauge.Proofs.Integration.Profiles
import BeanGauge.Proofs.Integration.Device
import BeanGauge.Proofs.Integration.Spelling
import BeanGauge.Proofs.BeanName.Grammar
import BeanGauge.Proofs.Registry.Accounts
import BeanGauge.Proofs.Program
import BeanGauge.Proofs.Dump.Decoding
import BeanGauge.Proofs.Pool.View
import BeanGauge.Proofs.Check.Sharing
