import ControlPlane.Batch.Report
import ControlPlane.Batch.Runner
import ControlPlane.Batch.Schedule
import ControlPlane.Batch.Stage
import ControlPlane.Client
import ControlPlane.ClientError
import ControlPlane.Command.Basic
import ControlPlane.Command.Catalogue
import ControlPlane.Command.Flatten
import ControlPlane.CommandLine.Arguments
import ControlPlane.CommandLine.Configuration
import ControlPlane.CommandLine.Failure
import ControlPlane.CommandLine.FileTree
import ControlPlane.CommandLine.Output
import ControlPlane.CommandLine.Run
import ControlPlane.Connection
import ControlPlane.Dialogue
import ControlPlane.Dictionary
import ControlPlane.Digest.Hmac
import ControlPlane.Digest.Sha1
import ControlPlane.Envelope
import ControlPlane.Http
import ControlPlane.Identity.AccountType
import ControlPlane.Identity.Records
import ControlPlane.Job
import ControlPlane.JobTable
import ControlPlane.Json.Basic
import ControlPlane.Json.Decode
import ControlPlane.Json.Parser
import ControlPlane.Json.Printer
import ControlPlane.Main
import ControlPlane.Number.Binary64
import ControlPlane.Number.Digits
import ControlPlane.Number.Extended
import ControlPlane.Number.Rounding
import ControlPlane.Number.Shortest
import ControlPlane.Number.Words
import ControlPlane.Privilege
import ControlPlane.Proofs.ActionRuns
import ControlPlane.Proofs.AdminOnly
import ControlPlane.Proofs.BatchJobs
import ControlPlane.Proofs.BatchReports
import ControlPlane.Proofs.BatchTimes
import ControlPlane.Proofs.Classification
import ControlPlane.Proofs.ClockLimits
import ControlPlane.Proofs.ConfirmedDeletions
import ControlPlane.Proofs.Courses
import ControlPlane.Proofs.ErrorReplies
import ControlPlane.Proofs.FaithfulServers
import ControlPlane.Proofs.FindOrCreate
import ControlPlane.Proofs.FlatCalls
import ControlPlane.Proofs.FlattenedCommands
import ControlPlane.Proofs.HeardReplies
import ControlPlane.Proofs.JobPolling
import ControlPlane.Proofs.LikeRecords
import ControlPlane.Proofs.LoneCommands
import ControlPlane.Proofs.MailAddresses
import ControlPlane.Proofs.MaskedSecrets
import ControlPlane.Proofs.NumericJobIds
import ControlPlane.Proofs.Outcomes
import ControlPlane.Proofs.OutlastedPolling
import ControlPlane.Proofs.ParallelBatches
import ControlPlane.Proofs.ParallelClients
import ControlPlane.Proofs.ParallelRuns
import ControlPlane.Proofs.PercentCode
import ControlPlane.Proofs.Permits
import ControlPlane.Proofs.PollingTimes
import ControlPlane.Proofs.PooledRequests
import ControlPlane.Proofs.Pools
import ControlPlane.Proofs.PromptPools
import ControlPlane.Proofs.ProvidedUsers
import ControlPlane.Proofs.QueryPieces
import ControlPlane.Proofs.ReceivedParameters
import ControlPlane.Proofs.RecordEdits
import ControlPlane.Proofs.RecordFields
import ControlPlane.Proofs.RefusedStatuses
import ControlPlane.Proofs.RepeatedCalls
import ControlPlane.Proofs.RepeatedProvision
import ControlPlane.Proofs.Replays
import ControlPlane.Proofs.ReplyRules
import ControlPlane.Proofs.RequestUrls
import ControlPlane.Proofs.ReservedParameters
import ControlPlane.Proofs.ResolvedSettings
import ControlPlane.Proofs.SecretConnections
import ControlPlane.Proofs.SettingTables
import ControlPlane.Proofs.SettingsRanges
import ControlPlane.Proofs.SignatureValues
import ControlPlane.Proofs.SignedRequests
import ControlPlane.Proofs.SignedTexts
import ControlPlane.Proofs.SmallControlPlane
import ControlPlane.Proofs.SortedValues
import ControlPlane.Proofs.StableOrder
import ControlPlane.Proofs.StartedJobs
import ControlPlane.Proofs.SteadyReplies
import ControlPlane.Proofs.Suites
import ControlPlane.Proofs.TimelessActions
import ControlPlane.Proofs.Transcripts
import ControlPlane.Proofs.UnseenSecrets
import ControlPlane.Proofs.UntypedCommands
import ControlPlane.Proofs.UserClients
import ControlPlane.Proofs.WireRecords
import ControlPlane.Provisioning
import ControlPlane.Script
import ControlPlane.Session
import ControlPlane.Settings.Basic
import ControlPlane.Settings.Document
import ControlPlane.Settings.Override
import ControlPlane.Settings.Wire
import ControlPlane.Signing
import ControlPlane.Table
import ControlPlane.Text.Base64
import ControlPlane.Text.Blank
import ControlPlane.Text.CaseIgnorable
import ControlPlane.Text.Cased
import ControlPlane.Text.CodePointSet
import ControlPlane.Text.CombiningClass
import ControlPlane.Text.Composed
import ControlPlane.Text.Composition
import ControlPlane.Text.JoiningTypes
import ControlPlane.Text.Lowercase
import ControlPlane.Text.Lowercase.Ranges
import ControlPlane.Text.PictureCharacters
import ControlPlane.Text.Pieces
import ControlPlane.Text.Quoted
import ControlPlane.Text.SpacingMarks
import ControlPlane.Text.Unprintable
import ControlPlane.Text.WideCharacters
import ControlPlane.Text.Width
import ControlPlane.Time.Duration
import ControlPlane.Time.Timestamp
import ControlPlane.Toml.Basic
import ControlPlane.Toml.Parser
import ControlPlane.Toml.Scalar
import ControlPlane.Transport
import ControlPlane.Url.Basic
import ControlPlane.Url.Domain
import ControlPlane.Url.Domain.Characters
import ControlPlane.Url.Domain.Direction
import ControlPlane.Url.Domain.Label
import ControlPlane.Url.Domain.Mapping
import ControlPlane.Url.Domain.Punycode
import ControlPlane.Url.Domain.Replacements
import ControlPlane.Url.Host
import ControlPlane.Url.Percent
import ControlPlane.World
import ControlPlane.Yaml
