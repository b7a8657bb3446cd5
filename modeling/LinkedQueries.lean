import LinkedQueries.Main
import LinkedQueries.RecordStream
import LinkedQueries.Sparql.Printer
import LinkedQueries.Proofs.Lists
import LinkedQueries.Proofs.Bgp.Incidence
import LinkedQueries.Proofs.Partition.Aggregation
import LinkedQueries.Proofs.RecordStream.Items
import LinkedQueries.Proofs.Store.Merging
import LinkedQueries.Proofs.AccessLog.Lines
import LinkedQueries.Proofs.Ingest.Sighting
import LinkedQueries.Proofs.Ingest.Lenient
import LinkedQueries.Proofs.Store.History
import LinkedQueries.Proofs.Text.FormCoding
import LinkedQueries.Proofs.Iri.Characters
import LinkedQueries.Proofs.Rdf.GraphKey
import LinkedQueries.Proofs.Url.Query
import LinkedQueries.Proofs.Url.Domain
import LinkedQueries.Proofs.AccessLog.QueryText
import LinkedQueries.Proofs.Partition.Gathering
import LinkedQueries.Proofs.View.Agreement
import LinkedQueries.Proofs.Record.Bracketing
import LinkedQueries.Proofs.Ingest.Aborted
import LinkedQueries.Proofs.RecordStream.LifeCycle
import LinkedQueries.Proofs.RecordStream.Relabelling
import LinkedQueries.Proofs.RecordStream.Session
import LinkedQueries.Proofs.Rdf.GraphTerm
import LinkedQueries.Proofs.Regroup.Writing
import LinkedQueries.Proofs.Regroup.Exactness
import LinkedQueries.Proofs.Ingest.Steps
import LinkedQueries.Proofs.Store.Named
import LinkedQueries.Proofs.Ingest.Shared
import LinkedQueries.Proofs.Ingest.Overtaking
import LinkedQueries.Proofs.Ingest.Parts
import LinkedQueries.Proofs.CommandLine.Extraction
import LinkedQueries.Proofs.CommandLine.Table
import LinkedQueries.Proofs.Record.Consistency
import LinkedQueries.Proofs.Bgp.Leaves
import LinkedQueries.Proofs.AccessLog.Fields
import LinkedQueries.Proofs.AccessLog.Grammar
import LinkedQueries.Proofs.Regroup.Failure
import LinkedQueries.Proofs.View.Content
import LinkedQueries.Proofs.Files.Changes
import LinkedQueries.Proofs.CommandLine.Replacing
import LinkedQueries.Proofs.Partition.Placement
import LinkedQueries.Proofs.Bgp.Statistics
import LinkedQueries.Proofs.Bgp.Renaming
import LinkedQueries.Proofs.Record.Filling
import LinkedQueries.Proofs.Record.Findings
import LinkedQueries.Proofs.AccessLog.Interpretation
import LinkedQueries.Proofs.AccessLog.RequestLine
import LinkedQueries.Proofs.Time.Calendar
import LinkedQueries.Proofs.Time.Notation
import LinkedQueries.Proofs.AccessLog.Timestamps
import LinkedQueries.Proofs.AccessLog.Independence
import LinkedQueries.Proofs.AccessLog.Reading
import LinkedQueries.Proofs.Text.ByteOrder
import LinkedQueries.Proofs.Dataset.Conversion
import LinkedQueries.Proofs.Rdf.PatternKey
import LinkedQueries.Proofs.Dataset.Grouping
import LinkedQueries.Proofs.View.Resolution
import LinkedQueries.Proofs.Dataset.Writing
import LinkedQueries.Proofs.Partition.Flattening
import LinkedQueries.Proofs.Record.Lookup
import LinkedQueries.Proofs.AccessLog.Braces
