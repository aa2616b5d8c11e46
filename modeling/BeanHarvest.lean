import BeanHarvest.Agent.Basic
import BeanHarvest.Agent.Document
import BeanHarvest.Agent.Iteration
import BeanHarvest.Agent.Recovery
import BeanHarvest.Agent.Running
import BeanHarvest.Agent.Turn
import BeanHarvest.Alias
import BeanHarvest.Attribute.Candidate
import BeanHarvest.Attribute.Extraction
import BeanHarvest.Attribute.Kind
import BeanHarvest.Attribute.Matched
import BeanHarvest.Bean
import BeanHarvest.CommandLine.Basic
import BeanHarvest.CommandLine.Outcome
import BeanHarvest.CommandLine.Reading
import BeanHarvest.Crew.Basic
import BeanHarvest.Crew.Floor
import BeanHarvest.Crew.Processing
import BeanHarvest.Crew.Shift
import BeanHarvest.Decimal.Binary
import BeanHarvest.Decimal.Notation
import BeanHarvest.Decimal.Reading
import BeanHarvest.Decimal.Shortest
import BeanHarvest.Fault.Basic
import BeanHarvest.Fault.Failure
import BeanHarvest.Filter.Basic
import BeanHarvest.Filter.Document
import BeanHarvest.Filter.Matching
import BeanHarvest.Filter.Reading
import BeanHarvest.Http
import BeanHarvest.Instance.Basic
import BeanHarvest.Instance.Discovery
import BeanHarvest.Instance.Life
import BeanHarvest.Jolokia.Client
import BeanHarvest.Jolokia.Decoding
import BeanHarvest.Jolokia.Request
import BeanHarvest.Jolokia.Response
import BeanHarvest.Json.Draft
import BeanHarvest.Json.Printer
import BeanHarvest.Json.Value
import BeanHarvest.Keyed
import BeanHarvest.Live.Statistics
import BeanHarvest.Live.Table
import BeanHarvest.Live.Value
import BeanHarvest.Main
import BeanHarvest.Metric
import BeanHarvest.MetricName
import BeanHarvest.Pattern.CharSet
import BeanHarvest.Pattern.Dialect
import BeanHarvest.Pattern.Engine
import BeanHarvest.Pattern.Expression
import BeanHarvest.Pattern.Program
import BeanHarvest.Pattern.Ranges
import BeanHarvest.Pattern.Reading
import BeanHarvest.Pattern.Search
import BeanHarvest.Proofs.Agent.Calls
import BeanHarvest.Proofs.Agent.Completing
import BeanHarvest.Proofs.Agent.Conservation
import BeanHarvest.Proofs.Agent.Filtering
import BeanHarvest.Proofs.Agent.Histories
import BeanHarvest.Proofs.Agent.Iterating
import BeanHarvest.Proofs.Agent.Listing
import BeanHarvest.Proofs.Agent.Scenes
import BeanHarvest.Proofs.Agent.Seeding
import BeanHarvest.Proofs.Agent.Spacing
import BeanHarvest.Proofs.Agent.Stopping
import BeanHarvest.Proofs.Agent.Verdicts
import BeanHarvest.Proofs.Agent.Working
import BeanHarvest.Proofs.Attribute.Binding
import BeanHarvest.Proofs.Attribute.Caching
import BeanHarvest.Proofs.Attribute.Counting
import BeanHarvest.Proofs.Attribute.Extracting
import BeanHarvest.Proofs.Attribute.Groups
import BeanHarvest.Proofs.Attribute.Keeping
import BeanHarvest.Proofs.Attribute.Limiting
import BeanHarvest.Proofs.Attribute.Looking
import BeanHarvest.Proofs.Attribute.Offers
import BeanHarvest.Proofs.Attribute.Rows
import BeanHarvest.Proofs.Attribute.Settled
import BeanHarvest.Proofs.Bean
import BeanHarvest.Proofs.Crew.Awaiting
import BeanHarvest.Proofs.Crew.Balance
import BeanHarvest.Proofs.Crew.Batches
import BeanHarvest.Proofs.Crew.Outcomes
import BeanHarvest.Proofs.Crew.Pools
import BeanHarvest.Proofs.Crew.Processing
import BeanHarvest.Proofs.Crew.Shifts
import BeanHarvest.Proofs.Decimal
import BeanHarvest.Proofs.Each
import BeanHarvest.Proofs.Filter.Coverage
import BeanHarvest.Proofs.Filter.Criteria
import BeanHarvest.Proofs.Filter.Selecting
import BeanHarvest.Proofs.Instance.Appending
import BeanHarvest.Proofs.Instance.Atomicity
import BeanHarvest.Proofs.Instance.Collecting
import BeanHarvest.Proofs.Instance.Eviction
import BeanHarvest.Proofs.Instance.Faults
import BeanHarvest.Proofs.Instance.Limit
import BeanHarvest.Proofs.Instance.Lockstep
import BeanHarvest.Proofs.Instance.Matching
import BeanHarvest.Proofs.Instance.Origin
import BeanHarvest.Proofs.Instance.Passes
import BeanHarvest.Proofs.Instance.Promptness
import BeanHarvest.Proofs.Instance.Readings
import BeanHarvest.Proofs.Instance.Recovering
import BeanHarvest.Proofs.Instance.Refreshing
import BeanHarvest.Proofs.Instance.Repeating
import BeanHarvest.Proofs.Instance.Scoping
import BeanHarvest.Proofs.Instance.Sections
import BeanHarvest.Proofs.Instance.Stamps
import BeanHarvest.Proofs.Instance.Starting
import BeanHarvest.Proofs.Instance.Steady
import BeanHarvest.Proofs.Instance.Working
import BeanHarvest.Proofs.Jolokia.Index
import BeanHarvest.Proofs.Jolokia.Paths
import BeanHarvest.Proofs.Jolokia.Tables
import BeanHarvest.Proofs.Json
import BeanHarvest.Proofs.Keyed
import BeanHarvest.Proofs.Live.Paths
import BeanHarvest.Proofs.Live.Statistics
import BeanHarvest.Proofs.MetricName
import BeanHarvest.Proofs.Pattern.Dialect
import BeanHarvest.Proofs.Report.Baselines
import BeanHarvest.Proofs.Report.Lines
import BeanHarvest.Proofs.Report.RateLaw
import BeanHarvest.Proofs.Report.Recording
import BeanHarvest.Proofs.Report.Scraping
import BeanHarvest.Proofs.Report.Series
import BeanHarvest.Proofs.Settings.Names
import BeanHarvest.Proofs.Site.Scraping
import BeanHarvest.Proofs.Sorted
import BeanHarvest.Proofs.Substitution
import BeanHarvest.Proofs.Tags
import BeanHarvest.Proofs.Target.Answers
import BeanHarvest.Proofs.Target.Assertions
import BeanHarvest.Proofs.Target.Clock
import BeanHarvest.Proofs.Target.Likeness
import BeanHarvest.Proofs.Target.Promises
import BeanHarvest.Proofs.Target.Prompt
import BeanHarvest.Proofs.Target.Repeating
import BeanHarvest.Proofs.Target.Sequence
import BeanHarvest.Proofs.Target.Transcript
import BeanHarvest.Proofs.Text
import BeanHarvest.Report.Basic
import BeanHarvest.Report.Exposition
import BeanHarvest.Report.Pipeline
import BeanHarvest.Report.Rates
import BeanHarvest.Settings.Basic
import BeanHarvest.Settings.Defaults
import BeanHarvest.Settings.Document
import BeanHarvest.Settings.Reading
import BeanHarvest.Settings.Validation
import BeanHarvest.Site.Basic
import BeanHarvest.Tags
import BeanHarvest.Target.Basic
import BeanHarvest.Target.Call
import BeanHarvest.Target.Rehearsal
import BeanHarvest.Target.Session
import BeanHarvest.Text.Cut
import BeanHarvest.Text.Lower
import BeanHarvest.Url.Address
import BeanHarvest.Url.Basic
import BeanHarvest.Yaml.Cursor
import BeanHarvest.Yaml.Node
import BeanHarvest.Yaml.Printer
import BeanHarvest.Yaml.Reading
import BeanHarvest.Yaml.Scalar
import BeanHarvest.Yaml.Token
import BeanHarvest.Yaml.Value
