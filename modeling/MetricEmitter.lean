import MetricEmitter.Table
import MetricEmitter.Text.Blank
import MetricEmitter.Text.Unprintable
import MetricEmitter.Text.Quoted
import MetricEmitter.Decimal.Shortest
import MetricEmitter.Decimal.Layout
import MetricEmitter.Decimal.Nearest
import MetricEmitter.Json
import MetricEmitter.Json.Printer
import MetricEmitter.Json.Reader
import MetricEmitter.Dimension.DimensionSet
import MetricEmitter.Dimension.Layers
import MetricEmitter.Metric.MetricUnit
import MetricEmitter.Metric.Series
import MetricEmitter.Time.Instant
import MetricEmitter.Time.Span
import MetricEmitter.Environment.Choice
import MetricEmitter.Notice
import MetricEmitter.Context
import MetricEmitter.Context.Operation
import MetricEmitter.Document
import MetricEmitter.Context.Emission
import MetricEmitter.Delivery.ByteWriter
import MetricEmitter.Delivery.Outlets
import MetricEmitter.Environment.Settings
import MetricEmitter.Environment
import MetricEmitter.Environment.Lambda
import MetricEmitter.Environment.Detector
import MetricEmitter.Emitter.Resolution
import MetricEmitter.Emitter
import MetricEmitter.Emitter.Setup
import MetricEmitter.Emitter.Session
import MetricEmitter.Proofs.Dimension.Union
import MetricEmitter.Proofs.Dimension.Constructible
import MetricEmitter.Proofs.Dimension.Merge
import MetricEmitter.Proofs.Dimension.Lists
import MetricEmitter.Proofs.Dimension.Layers
import MetricEmitter.Proofs.Context.Operation
import MetricEmitter.Proofs.Context.LateDefaults
import MetricEmitter.Proofs.Emitter.Installation
import MetricEmitter.Proofs.Context.Reachable
import MetricEmitter.Proofs.Context.Refusals
import MetricEmitter.Proofs.Context.Puts
import MetricEmitter.Proofs.Emitter.Runs
import MetricEmitter.Proofs.Emitter.Refusals
import MetricEmitter.Proofs.Emitter.Defaults
import MetricEmitter.Proofs.Delivery.Outlets
import MetricEmitter.Proofs.Emitter.Delivery
import MetricEmitter.Proofs.Table
import MetricEmitter.Proofs.Document.Members
import MetricEmitter.Proofs.Context.Samples
import MetricEmitter.Proofs.Document.Contents
import MetricEmitter.Proofs.Document.Readers
import MetricEmitter.Proofs.Document.Message
import MetricEmitter.Proofs.Context.Conservation
import MetricEmitter.Proofs.Emitter.Topics
import MetricEmitter.Proofs.Emitter.Restoration
import MetricEmitter.Proofs.Emitter.Conservation
import MetricEmitter.Proofs.Emitter.Forgetting
import MetricEmitter.Proofs.Emitter.Cycles
import MetricEmitter.Proofs.Emitter.Frame
import MetricEmitter.Proofs.Environment.Detection
import MetricEmitter.Proofs.Emitter.Destination
import MetricEmitter.Proofs.Json.OneLine
import MetricEmitter.Proofs.Delivery.Writers
import MetricEmitter.Proofs.Delivery.Lines
import MetricEmitter.Proofs.Delivery.LimitedWriters
import MetricEmitter.Proofs.Context.Interchange
import MetricEmitter.Proofs.Context.Recordings
import MetricEmitter.Proofs.Emitter.Building
import MetricEmitter.Proofs.Document.Timestamps
import MetricEmitter.Proofs.Text.Trimming
import MetricEmitter.Proofs.Environment.Settings
import MetricEmitter.Proofs.Emitter.Metadata
