import TrexWebui.TrafficAgreement
import TrexWebui.TrafficValidation
import TrexWebui.CaptureRelease
import TrexWebui.CaptureFetching
import TrexWebui.ArchiveUnpacking
import TrexWebui.PacketConsistency
import TrexWebui.PacketRecovery
import TrexWebui.PcapEndpoints
import TrexWebui.AddressIteration
import TrexWebui.PacketTrimming
import TrexWebui.FieldEngineVariables
import TrexWebui.PersistedStateContract
import TrexWebui.ImportedLayout
import TrexWebui.PortRestoration
import TrexWebui.ServiceConnections
import TrexWebui.ServiceLocks
import TrexWebui.ServiceSupervision
import TrexWebui.StreamChaining
import TrexWebui.QuickValidationPolling
import TrexWebui.RawPacketEffects
import TrexWebui.CapturePacketBuffer
import TrexWebui.PcapFiles
import TrexWebui.Ipv6Suffixes
import TrexWebui.JsNumbers
import TrexWebui.TrafficMultipliers
import TrexWebui.PayloadDigests
import TrexWebui.PacketReaders
import TrexWebui.CaptureDecoding
import TrexWebui.CaptureSummary
import TrexWebui.CapturePadding
import TrexWebui.StatsStreams
import TrexWebui.ConfigAuditRuns
import TrexWebui.ConfigRendering
import TrexWebui.ReleaseOperations
import TrexWebui.ReleaseJournalCopies
import TrexWebui.ReleaseJournalRules
import TrexWebui.PlainJson
import TrexWebui.ReleaseJournalAcceptance
import TrexWebui.ReleaseJournalFiles
import TrexWebui.ReleaseOutcomes
