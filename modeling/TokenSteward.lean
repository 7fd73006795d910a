import TokenSteward.Backoff
import TokenSteward.Cluster.Basic
import TokenSteward.Cluster.Request
import TokenSteward.Cluster.Store
import TokenSteward.Controller.Basic
import TokenSteward.Controller.Machine
import TokenSteward.Controller.Operator
import TokenSteward.Controller.Schedule
import TokenSteward.Controller.Watch
import TokenSteward.Digest.Hmac
import TokenSteward.Digest.Sha256
import TokenSteward.Failure
import TokenSteward.Json.Fault
import TokenSteward.Json.Lookup
import TokenSteward.Json.Reader
import TokenSteward.Json.Skip
import TokenSteward.Json.Token
import TokenSteward.Json.Tree
import TokenSteward.Json.Value
import TokenSteward.Number.Binary64
import TokenSteward.Number.Digits
import TokenSteward.Number.Shortest
import TokenSteward.OAuth.Link
import TokenSteward.OAuth.Signing
import TokenSteward.OAuth.State
import TokenSteward.Pass.Announced
import TokenSteward.Pass.Basic
import TokenSteward.Pass.Binding
import TokenSteward.Pass.Token
import TokenSteward.Pass.Update
import TokenSteward.Proofs.Announcement.Relay
import TokenSteward.Proofs.Announcement.Told
import TokenSteward.Proofs.Announcement.Turns
import TokenSteward.Proofs.Bind
import TokenSteward.Proofs.Cluster.Calls
import TokenSteward.Proofs.Cluster.Chances
import TokenSteward.Proofs.Cluster.Copies
import TokenSteward.Proofs.Cluster.Halves
import TokenSteward.Proofs.Cluster.Identities
import TokenSteward.Proofs.Cluster.Lifetimes
import TokenSteward.Proofs.Cluster.Listing
import TokenSteward.Proofs.Cluster.Retelling
import TokenSteward.Proofs.Cluster.Versions
import TokenSteward.Proofs.Cluster.Writes
import TokenSteward.Proofs.Delay.Admitted
import TokenSteward.Proofs.Delay.Doubling
import TokenSteward.Proofs.Deletion.Awaited
import TokenSteward.Proofs.Deletion.Discipline
import TokenSteward.Proofs.Deletion.Release
import TokenSteward.Proofs.Deletion.Removal
import TokenSteward.Proofs.Followers.Meetings
import TokenSteward.Proofs.Followers.Relisted
import TokenSteward.Proofs.Grammar.Basic
import TokenSteward.Proofs.Grammar.Numbers
import TokenSteward.Proofs.Grammar.Readers
import TokenSteward.Proofs.Grammar.Records
import TokenSteward.Proofs.Grammar.Skipped
import TokenSteward.Proofs.Grammar.Strings
import TokenSteward.Proofs.Json.Numbers
import TokenSteward.Proofs.Json.Parts
import TokenSteward.Proofs.Json.RoundTrip
import TokenSteward.Proofs.Json.Strings
import TokenSteward.Proofs.Linking.Retried
import TokenSteward.Proofs.Linking.Stages
import TokenSteward.Proofs.Mirror.Couples
import TokenSteward.Proofs.Mirror.Heeded
import TokenSteward.Proofs.Mirror.Mirrored
import TokenSteward.Proofs.OAuth.Followed
import TokenSteward.Proofs.OAuth.Genuine
import TokenSteward.Proofs.OAuth.Link
import TokenSteward.Proofs.OAuth.Separation
import TokenSteward.Proofs.Outcome.Binding
import TokenSteward.Proofs.Outcome.Course
import TokenSteward.Proofs.Outcome.Passes
import TokenSteward.Proofs.Outcome.Token
import TokenSteward.Proofs.Pass.Discipline
import TokenSteward.Proofs.Pass.Guards
import TokenSteward.Proofs.Pass.Play
import TokenSteward.Proofs.Pass.Requests
import TokenSteward.Proofs.Pass.Steps
import TokenSteward.Proofs.Passage.Binding
import TokenSteward.Proofs.Passage.Bound
import TokenSteward.Proofs.Passage.Decided
import TokenSteward.Proofs.Passage.Endings
import TokenSteward.Proofs.Passage.Gates
import TokenSteward.Proofs.Passage.Guards
import TokenSteward.Proofs.Passage.SafeToDrop
import TokenSteward.Proofs.Passage.LetGo
import TokenSteward.Proofs.Passage.Published
import TokenSteward.Proofs.Passage.Sought
import TokenSteward.Proofs.Passage.Timely
import TokenSteward.Proofs.Passage.Token
import TokenSteward.Proofs.Provider.Agreement
import TokenSteward.Proofs.Provider.Places
import TokenSteward.Proofs.Provider.Resolution
import TokenSteward.Proofs.Provider.Scopes
import TokenSteward.Proofs.Queue.Course
import TokenSteward.Proofs.Queue.Flight
import TokenSteward.Proofs.Queue.Unheld
import TokenSteward.Proofs.Queue.Waiters
import TokenSteward.Proofs.Resource.Times
import TokenSteward.Proofs.Resource.Written
import TokenSteward.Proofs.Rest.Again
import TokenSteward.Proofs.Rest.Cared
import TokenSteward.Proofs.Rest.Consuming
import TokenSteward.Proofs.Rest.Desks
import TokenSteward.Proofs.Rest.Orderly
import TokenSteward.Proofs.Rest.Rebound
import TokenSteward.Proofs.Rest.Settled
import TokenSteward.Proofs.Rest.Steady
import TokenSteward.Proofs.Rest.Tidy
import TokenSteward.Proofs.Rest.Triggered
import TokenSteward.Proofs.Rest.Verdict
import TokenSteward.Proofs.Rest.Writers
import TokenSteward.Proofs.Secrecy.Alike
import TokenSteward.Proofs.Secrecy.Machines
import TokenSteward.Proofs.Secrecy.Runs
import TokenSteward.Proofs.Settings.FirstValue
import TokenSteward.Proofs.Settings.Lengths
import TokenSteward.Proofs.Settings.Written
import TokenSteward.Proofs.Snoc
import TokenSteward.Proofs.Status.Dated
import TokenSteward.Proofs.Status.Hearsay
import TokenSteward.Proofs.Status.Proper
import TokenSteward.Proofs.Status.Sources
import TokenSteward.Proofs.Text.Affix
import TokenSteward.Proofs.Text.Base64
import TokenSteward.Proofs.Text.Utf8
import TokenSteward.Proofs.Traffic.Basic
import TokenSteward.Proofs.Url.Hosts
import TokenSteward.Proofs.Url.Marks
import TokenSteward.Proofs.Workers.Balance
import TokenSteward.Proofs.Workers.Books
import TokenSteward.Proofs.Workers.Entries
import TokenSteward.Proofs.Workers.Kept
import TokenSteward.Proofs.Workers.Moves
import TokenSteward.Proofs.Works.Coming
import TokenSteward.Proofs.Works.TaskStep
import TokenSteward.Proofs.Works.Flight
import TokenSteward.Proofs.Works.Core
import TokenSteward.Proofs.Works.Onward
import TokenSteward.Proofs.Works.Reached
import TokenSteward.Proofs.Works.Run
import TokenSteward.Proofs.Works.Sources
import TokenSteward.Provider.Failure
import TokenSteward.Provider.Identifier
import TokenSteward.Provider.Registry
import TokenSteward.Provider.Scopes
import TokenSteward.Provider.Validation
import TokenSteward.Queue.Basic
import TokenSteward.Queue.Dispenser
import TokenSteward.Rehearsal.Behaviour
import TokenSteward.Rehearsal.Fault
import TokenSteward.Rehearsal.Instructions
import TokenSteward.Rehearsal.Listing
import TokenSteward.Rehearsal.QueueTrial
import TokenSteward.Rehearsal.Script
import TokenSteward.Rehearsal.Shelf
import TokenSteward.Rehearsal.Stage
import TokenSteward.Rehearsal.Stub
import TokenSteward.Rehearsal.World
import TokenSteward.Resource.AccessToken
import TokenSteward.Resource.Binding
import TokenSteward.Resource.DataUpdate
import TokenSteward.Resource.Key
import TokenSteward.Resource.Metadata
import TokenSteward.Resource.Object
import TokenSteward.Resource.Permission
import TokenSteward.Resource.Timestamp
import TokenSteward.Secret.Mapping
import TokenSteward.Secret.Record
import TokenSteward.Secret.Vault
import TokenSteward.Settings
import TokenSteward.Table
import TokenSteward.Text.Affix
import TokenSteward.Text.Assigned
import TokenSteward.Text.Base64
import TokenSteward.Text.Blank
import TokenSteward.Text.CodeTable
import TokenSteward.Text.CombiningClass
import TokenSteward.Text.Composed
import TokenSteward.Text.Decomposition
import TokenSteward.Text.Described
import TokenSteward.Text.Direction
import TokenSteward.Text.Joining
import TokenSteward.Text.Mark
import TokenSteward.Text.Printable
import TokenSteward.Text.Quoted
import TokenSteward.Text.Utf8
import TokenSteward.Time.Span
import TokenSteward.Url.Basic
import TokenSteward.Url.Domain
import TokenSteward.Url.Host
import TokenSteward.Url.Parser
import TokenSteward.Url.Percent
import TokenSteward.Url.Punycode
import TokenSteward.Url.Respelling
