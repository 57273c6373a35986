import IntrusionDetection.AcceptedRules
import IntrusionDetection.ArrivalOrder
import IntrusionDetection.Base64
import IntrusionDetection.BinaryRounding
import IntrusionDetection.BoundedQueue
import IntrusionDetection.CharacterTables
import IntrusionDetection.CheckedContentMatches
import IntrusionDetection.CheckedHeaderMatches
import IntrusionDetection.CheckedHeaderParser
import IntrusionDetection.CheckedOptionMatches
import IntrusionDetection.CheckedOptionParser
import IntrusionDetection.CheckedRuleMatches
import IntrusionDetection.CheckedRuleParser
import IntrusionDetection.CheckedSteps
import IntrusionDetection.CheckedValueMatches
import IntrusionDetection.Config
import IntrusionDetection.ContentMatcher
import IntrusionDetection.ContentSearch
import IntrusionDetection.DecodedLines
import IntrusionDetection.DecodingLimits
import IntrusionDetection.DerivedViews
import IntrusionDetection.DetectedPayloads
import IntrusionDetection.Detection
import IntrusionDetection.DetectionOrigins
import IntrusionDetection.DissectedPackets
import IntrusionDetection.DnsParser
import IntrusionDetection.EncodableTexts
import IntrusionDetection.Engine
import IntrusionDetection.EngineContext
import IntrusionDetection.EngineNoninterference
import IntrusionDetection.EvaluationStats
import IntrusionDetection.Evaluator
import IntrusionDetection.EvaluatorAccounting
import IntrusionDetection.EvaluatorIndexing
import IntrusionDetection.Event
import IntrusionDetection.EventDecoder
import IntrusionDetection.FaultPrecedence
import IntrusionDetection.Flow
import IntrusionDetection.FlowConservation
import IntrusionDetection.FlowContext
import IntrusionDetection.FlowCurrent
import IntrusionDetection.FlowEviction
import IntrusionDetection.FlowHistory
import IntrusionDetection.FlowIdentity
import IntrusionDetection.FlowInvariants
import IntrusionDetection.FlowNames
import IntrusionDetection.FlowNoninterference
import IntrusionDetection.FlowRequests
import IntrusionDetection.FlowRoles
import IntrusionDetection.FlowSettings
import IntrusionDetection.FlowSilence
import IntrusionDetection.FlowTimeout
import IntrusionDetection.FlowTracker
import IntrusionDetection.FlowTrackerExports
import IntrusionDetection.FlowTrackerSteps
import IntrusionDetection.FormRoundTrip
import IntrusionDetection.GuardedSteps
import IntrusionDetection.HeaderMerging
import IntrusionDetection.HeaderParser
import IntrusionDetection.Histories
import IntrusionDetection.HttpBodies
import IntrusionDetection.HttpDecoder
import IntrusionDetection.HttpMessages
import IntrusionDetection.HttpParser
import IntrusionDetection.InsertionDict
import IntrusionDetection.IpAddress
import IntrusionDetection.Ipv4
import IntrusionDetection.JsonRoundTrip
import IntrusionDetection.JsonText
import IntrusionDetection.JsonlLogger
import IntrusionDetection.LatePackets
import IntrusionDetection.LeastChoice
import IntrusionDetection.LineFile
import IntrusionDetection.LiveCapture
import IntrusionDetection.LiveSession
import IntrusionDetection.Loader
import IntrusionDetection.LoaderAccounting
import IntrusionDetection.LoggedRecords
import IntrusionDetection.LoggerInvariant
import IntrusionDetection.LoggerSchedules
import IntrusionDetection.LoggerThreads
import IntrusionDetection.MapEarlier
import IntrusionDetection.MimeDecoder
import IntrusionDetection.NamedFaults
import IntrusionDetection.Normalizer
import IntrusionDetection.NormalizerStability
import IntrusionDetection.OptionParser
import IntrusionDetection.OptionSplitting
import IntrusionDetection.OrderedDict
import IntrusionDetection.OutputAgreement
import IntrusionDetection.PacketLayers
import IntrusionDetection.PacketParser
import IntrusionDetection.PacketStages
import IntrusionDetection.PercentLayers
import IntrusionDetection.Pipeline
import IntrusionDetection.PipelineOutcomes
import IntrusionDetection.PipelineStages
import IntrusionDetection.Preprocessor
import IntrusionDetection.ProtocolDetector
import IntrusionDetection.PyObjects
import IntrusionDetection.PyText
import IntrusionDetection.QuotedPrintable
import IntrusionDetection.RawEvent
import IntrusionDetection.Rule
import IntrusionDetection.RuleClassification
import IntrusionDetection.RuleFaults
import IntrusionDetection.RuleFile
import IntrusionDetection.RuleIndexer
import IntrusionDetection.RuleLines
import IntrusionDetection.RuleMatcher
import IntrusionDetection.RuleObjects
import IntrusionDetection.RuleParser
import IntrusionDetection.RuleRendering
import IntrusionDetection.RuleReport
import IntrusionDetection.RuleRepository
import IntrusionDetection.RuleRoundTrip
import IntrusionDetection.RuleTokenizer
import IntrusionDetection.ScheduledSteps
import IntrusionDetection.SearchWork
import IntrusionDetection.SmtpHeaders
import IntrusionDetection.SmtpLines
import IntrusionDetection.SmtpParser
import IntrusionDetection.StepRuns
import IntrusionDetection.TcpHistory
import IntrusionDetection.TcpState
import IntrusionDetection.TextSplitting
import IntrusionDetection.TransferDecoding
import IntrusionDetection.UncheckedUpdates
import IntrusionDetection.Unescaping
import IntrusionDetection.UntrustedEvents
import IntrusionDetection.UrlDecoder
import IntrusionDetection.Utf8Decoding
import IntrusionDetection.Validator
import IntrusionDetection.VerdictSufficiency
import IntrusionDetection.WrittenHeader
import IntrusionDetection.WrittenOptions
import IntrusionDetection.WrittenRules
import IntrusionDetection.WrittenValues
