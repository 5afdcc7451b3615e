import BuildProvenance.Main
import BuildProvenance.Store.Bucket.Pool
import BuildProvenance.Store.Describe
import BuildProvenance.Proofs.Build.Refresh
import BuildProvenance.Proofs.Build.Watch
import BuildProvenance.Proofs.Attestation.Subjects
import BuildProvenance.Proofs.Watch.Attesting
import BuildProvenance.Proofs.Json.Literal
import BuildProvenance.Proofs.Json.Tokens
import BuildProvenance.Proofs.Json.Roundtrip
import BuildProvenance.Proofs.Json.Depth
import BuildProvenance.Proofs.Time.Rfc3339
import BuildProvenance.Proofs.Json.Records
import BuildProvenance.Proofs.Snapshot
import BuildProvenance.Proofs.Snapshot.Saved
import BuildProvenance.Proofs.Attestation.Document
import BuildProvenance.Proofs.Watch.Finishing
import BuildProvenance.Proofs.Attestation.Roundtrip
import BuildProvenance.Proofs.Image.Snapshot
import BuildProvenance.Proofs.Bucket.Delimited
import BuildProvenance.Proofs.Bucket.Snapshot
import BuildProvenance.Proofs.Image.Completeness
import BuildProvenance.Proofs.Http.Exchange
import BuildProvenance.Proofs.Http.Tokens
import BuildProvenance.Proofs.Http.Digest
import BuildProvenance.Proofs.Time.Instant
import BuildProvenance.Proofs.Directory.Delta
import BuildProvenance.Proofs.Build.Running
import BuildProvenance.Proofs.Watch.Calls
import BuildProvenance.Proofs.StartMessage
import BuildProvenance.Proofs.Bucket.Pool
import BuildProvenance.Proofs.Bucket.Omitted
import BuildProvenance.Proofs.FileSystem.Frame
import BuildProvenance.Proofs.CommandLine.Output
import BuildProvenance.Proofs.Bucket.Pages
import BuildProvenance.Proofs.Bucket.Reached
import BuildProvenance.Proofs.Bucket.Endless
import BuildProvenance.Proofs.CommandLine.Start
import BuildProvenance.Proofs.Encoding.Percent
import BuildProvenance.Proofs.Url.Path
import BuildProvenance.Proofs.Text.Trim
import BuildProvenance.Proofs.Url.Plain
import BuildProvenance.Proofs.Bucket.Root
import BuildProvenance.Proofs.Http.Targets
import BuildProvenance.Proofs.FileSystem.Directories
import BuildProvenance.Proofs.Bucket.Nesting
import BuildProvenance.Proofs.Attestation.Batches
import BuildProvenance.Proofs.Attestation.Repeated
import BuildProvenance.Proofs.Watch.Merging
import BuildProvenance.Proofs.Snapshot.Changes
import BuildProvenance.Proofs.Watch.Baselines
import BuildProvenance.Proofs.Image.Ending
import BuildProvenance.Proofs.Image.Reference
import BuildProvenance.Proofs.Build.Requests
import BuildProvenance.Proofs.Build.CloudBuild
import BuildProvenance.Proofs.Url.Domain
import BuildProvenance.Proofs.Build.Workflow
import BuildProvenance.Proofs.Checkout
import BuildProvenance.Proofs.Watch.Restoring
import BuildProvenance.Proofs.Build.Substitutions
import BuildProvenance.Proofs.Build.Callers
import BuildProvenance.Proofs.Attestation.Digests
import BuildProvenance.Proofs.Http.Challenge
