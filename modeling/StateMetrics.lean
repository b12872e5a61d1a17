import StateMetrics.Aggregate.Event
import StateMetrics.Aggregate.Pod
import StateMetrics.Config.Decode
import StateMetrics.Config.Env
import StateMetrics.Config.Exporter
import StateMetrics.Config.Ini
import StateMetrics.Config.Json
import StateMetrics.Config.Json5
import StateMetrics.Config.Load
import StateMetrics.Config.Ron
import StateMetrics.Config.Toml
import StateMetrics.Config.Value
import StateMetrics.Config.Yaml
import StateMetrics.Crd.Collector
import StateMetrics.Crd.Descriptor
import StateMetrics.Crd.Samples
import StateMetrics.Crd.Spec
import StateMetrics.Decimal.Basic
import StateMetrics.Decimal.Shortest
import StateMetrics.Decimal.Text
import StateMetrics.Entries
import StateMetrics.Error
import StateMetrics.Flags.Parse
import StateMetrics.Flags.Similarity
import StateMetrics.Health
import StateMetrics.Http.Router
import StateMetrics.Ini.Document
import StateMetrics.Json.Basic
import StateMetrics.Json.Ordered
import StateMetrics.Json.Path
import StateMetrics.Json.Reader
import StateMetrics.Json.Writer
import StateMetrics.Json5.Reader
import StateMetrics.Kube.Client
import StateMetrics.Kube.Connect
import StateMetrics.Kube.Credentials
import StateMetrics.Kube.Event
import StateMetrics.Kube.Kubeconfig
import StateMetrics.Kube.Object
import StateMetrics.Kube.Pod
import StateMetrics.Kube.PodSchema
import StateMetrics.Kube.Schema
import StateMetrics.Kube.Timestamp
import StateMetrics.Logging
import StateMetrics.Main
import StateMetrics.Metric.Desc
import StateMetrics.Metric.Exposition
import StateMetrics.Metric.Family
import StateMetrics.Metric.Name
import StateMetrics.Metric.Registry
import StateMetrics.Proofs.Aggregate.AbnormalTimer
import StateMetrics.Proofs.Aggregate.EventTally
import StateMetrics.Proofs.Aggregate.EventUpdate
import StateMetrics.Proofs.Aggregate.PodTally
import StateMetrics.Proofs.Aggregate.PodWatch
import StateMetrics.Proofs.Aggregate.Series
import StateMetrics.Proofs.Crd.CacheMirror
import StateMetrics.Proofs.Crd.Counting
import StateMetrics.Proofs.Crd.Descriptors
import StateMetrics.Proofs.Crd.Gate
import StateMetrics.Proofs.Crd.Gather
import StateMetrics.Proofs.Crd.Labels
import StateMetrics.Proofs.Crd.Replace
import StateMetrics.Proofs.Crd.Strategies
import StateMetrics.Proofs.Entries
import StateMetrics.Proofs.Health.Degradation
import StateMetrics.Proofs.Health.Probes
import StateMetrics.Proofs.Json.Path
import StateMetrics.Proofs.Kube.Ordered
import StateMetrics.Proofs.Registry.Build
import StateMetrics.Proofs.Registry.Names
import StateMetrics.Proofs.Watch.Gate
import StateMetrics.Proofs.Watch.Known
import StateMetrics.Proofs.Watch.Ordered
import StateMetrics.Proofs.Watch.Restart
import StateMetrics.Proofs.Watch.Sync
import StateMetrics.Proofs.Window.Capacity
import StateMetrics.Proofs.Window.Cleanup
import StateMetrics.Proofs.Window.Members
import StateMetrics.Proofs.Window.Operations
import StateMetrics.Proofs.Window.Recency
import StateMetrics.Proofs.Window.Retention
import StateMetrics.Publication
import StateMetrics.Registry
import StateMetrics.Report
import StateMetrics.Resource.Cache
import StateMetrics.Ron.Reader
import StateMetrics.Ron.Value
import StateMetrics.Settings.Collectors
import StateMetrics.Settings.Decode
import StateMetrics.Settings.OfJson
import StateMetrics.Startup
import StateMetrics.Text.Base64
import StateMetrics.Text.Categories
import StateMetrics.Text.Integer
import StateMetrics.Text.Order
import StateMetrics.Text.Quoted
import StateMetrics.Text.Unicode
import StateMetrics.Text.Utf8
import StateMetrics.Time
import StateMetrics.Tls.Der
import StateMetrics.Tls.Pem
import StateMetrics.Toml.Document
import StateMetrics.Toml.Grammar
import StateMetrics.Toml.Values
import StateMetrics.Watch.Known
import StateMetrics.Watch.Run
import StateMetrics.Watch.Target
import StateMetrics.Watch.Watcher
import StateMetrics.Window.BucketMap
import StateMetrics.Window.Cleanup
import StateMetrics.Yaml.Datum
import StateMetrics.Yaml.Fetch
import StateMetrics.Yaml.Node
import StateMetrics.Yaml.Parser
import StateMetrics.Yaml.Scalars
import StateMetrics.Yaml.Scanner
import StateMetrics.Yaml.Token
