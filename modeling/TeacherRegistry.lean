import TeacherRegistry.Client.Basic
import TeacherRegistry.Client.Error
import TeacherRegistry.Client.Shape
import TeacherRegistry.Config.Basic
import TeacherRegistry.Config.Layers
import TeacherRegistry.Config.VariableFile
import TeacherRegistry.Console.Arguments
import TeacherRegistry.Console.Run
import TeacherRegistry.Console.Style
import TeacherRegistry.Console.Table
import TeacherRegistry.Console.Transcript
import TeacherRegistry.Controller
import TeacherRegistry.Desk
import TeacherRegistry.Dictionary
import TeacherRegistry.Disk
import TeacherRegistry.Http.Exchange
import TeacherRegistry.Http.Message
import TeacherRegistry.Journal
import TeacherRegistry.Json.Document
import TeacherRegistry.Json.Lexeme
import TeacherRegistry.Json.Numeral
import TeacherRegistry.Json.Printer
import TeacherRegistry.Json.RawText
import TeacherRegistry.Json.Value
import TeacherRegistry.Log.Directive
import TeacherRegistry.Log.Event
import TeacherRegistry.Log.Filter
import TeacherRegistry.Log.Level
import TeacherRegistry.Main
import TeacherRegistry.Number.Binary64
import TeacherRegistry.Number.Power
import TeacherRegistry.Number.Shortest
import TeacherRegistry.Probe
import TeacherRegistry.Proofs.Acceptance
import TeacherRegistry.Proofs.AcceptedBases
import TeacherRegistry.Proofs.Addresses
import TeacherRegistry.Proofs.Attempts
import TeacherRegistry.Proofs.BasePaths
import TeacherRegistry.Proofs.CallOutcomes
import TeacherRegistry.Proofs.CallSequences
import TeacherRegistry.Proofs.Calls
import TeacherRegistry.Proofs.CaseForms
import TeacherRegistry.Proofs.ChangeTraces
import TeacherRegistry.Proofs.ClosedForms
import TeacherRegistry.Proofs.CommandLineLayer
import TeacherRegistry.Proofs.ConfirmedDeletions
import TeacherRegistry.Proofs.ConsoleIsolation
import TeacherRegistry.Proofs.Courses
import TeacherRegistry.Proofs.CrampedPaths
import TeacherRegistry.Proofs.CredentialHistory
import TeacherRegistry.Proofs.DictionaryOrder
import TeacherRegistry.Proofs.DirectCalls
import TeacherRegistry.Proofs.DiskWriting
import TeacherRegistry.Proofs.EditIntegrity
import TeacherRegistry.Proofs.Eviction
import TeacherRegistry.Proofs.Exchanges
import TeacherRegistry.Proofs.FailedOperations
import TeacherRegistry.Proofs.FailureNotices
import TeacherRegistry.Proofs.FirstRequests
import TeacherRegistry.Proofs.FormSteps
import TeacherRegistry.Proofs.GivenFlags
import TeacherRegistry.Proofs.GivenTokens
import TeacherRegistry.Proofs.Glances
import TeacherRegistry.Proofs.HiddenBodies
import TeacherRegistry.Proofs.HostTexts
import TeacherRegistry.Proofs.IdNumbers
import TeacherRegistry.Proofs.ItemAddresses
import TeacherRegistry.Proofs.JsonDocuments
import TeacherRegistry.Proofs.JsonLexing
import TeacherRegistry.Proofs.JsonRoundTrip
import TeacherRegistry.Proofs.Keystrokes
import TeacherRegistry.Proofs.LayeredSettings
import TeacherRegistry.Proofs.ListedIds
import TeacherRegistry.Proofs.Listings
import TeacherRegistry.Proofs.Login
import TeacherRegistry.Proofs.LongerHistories
import TeacherRegistry.Proofs.LoweredParts
import TeacherRegistry.Proofs.Operations
import TeacherRegistry.Proofs.Origins
import TeacherRegistry.Proofs.PasswordVariable
import TeacherRegistry.Proofs.Passwords
import TeacherRegistry.Proofs.PercentCoding
import TeacherRegistry.Proofs.PlainSegments
import TeacherRegistry.Proofs.ProbeRuns
import TeacherRegistry.Proofs.ProbeStages
import TeacherRegistry.Proofs.RecordSpellings
import TeacherRegistry.Proofs.Resubmission
import TeacherRegistry.Proofs.Retries
import TeacherRegistry.Proofs.Searches
import TeacherRegistry.Proofs.Servers
import TeacherRegistry.Proofs.SessionFiles
import TeacherRegistry.Proofs.SettingSections
import TeacherRegistry.Proofs.SettingTexts
import TeacherRegistry.Proofs.SingleReplies
import TeacherRegistry.Proofs.StoreLaws
import TeacherRegistry.Proofs.StoreRefinement
import TeacherRegistry.Proofs.TextObjects
import TeacherRegistry.Proofs.Tokens
import TeacherRegistry.Proofs.Trails
import TeacherRegistry.Proofs.TypedTexts
import TeacherRegistry.Proofs.Updates
import TeacherRegistry.Proofs.Utf8
import TeacherRegistry.Proofs.ValidRecords
import TeacherRegistry.Proofs.Validation
import TeacherRegistry.Proofs.WholeNumbers
import TeacherRegistry.Proofs.WrittenDocuments
import TeacherRegistry.Proofs.WrittenLexemes
import TeacherRegistry.Proofs.WrittenNumerals
import TeacherRegistry.Session
import TeacherRegistry.Store
import TeacherRegistry.Teacher.Basic
import TeacherRegistry.Teacher.Json
import TeacherRegistry.Text.Alphanumeric
import TeacherRegistry.Text.Base64
import TeacherRegistry.Text.Blank
import TeacherRegistry.Text.ByteCut
import TeacherRegistry.Text.CaseRun
import TeacherRegistry.Text.CharRange
import TeacherRegistry.Text.Glyph
import TeacherRegistry.Text.Integer
import TeacherRegistry.Text.LowerCase
import TeacherRegistry.Text.LowerCase.Table
import TeacherRegistry.Text.NumberTable
import TeacherRegistry.Text.Pattern
import TeacherRegistry.Text.Pattern.Parser
import TeacherRegistry.Text.Quoted
import TeacherRegistry.Text.Quoted.Table
import TeacherRegistry.Text.Substring
import TeacherRegistry.Text.UpperCase
import TeacherRegistry.Text.UpperCase.Table
import TeacherRegistry.Url.Basic
import TeacherRegistry.Url.DomainName
import TeacherRegistry.Url.DomainName.Composition
import TeacherRegistry.Url.DomainName.CompositionTable
import TeacherRegistry.Url.DomainName.Context
import TeacherRegistry.Url.DomainName.ContextTable
import TeacherRegistry.Url.DomainName.Mapping
import TeacherRegistry.Url.DomainName.MappingTable
import TeacherRegistry.Url.Ipv4
import TeacherRegistry.Url.Ipv6
import TeacherRegistry.Url.Parser
import TeacherRegistry.Url.Percent
import TeacherRegistry.Url.Punycode
import TeacherRegistry.World
