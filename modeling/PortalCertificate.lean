import PortalCertificate.Adapter.Guarantees
import PortalCertificate.Adapter.Translation
import PortalCertificate.Broker.ContextBinding
import PortalCertificate.Broker.DeviceBinding
import PortalCertificate.Broker.EcdsaSignature
import PortalCertificate.Broker.KeySizes
import PortalCertificate.Broker.PromptConversations
import PortalCertificate.Context.Answers
import PortalCertificate.Context.Shutdown
import PortalCertificate.Context.Consents
import PortalCertificate.Core.PinAttempts
import PortalCertificate.Core.Principals
import PortalCertificate.Core.UiProtocol
import PortalCertificate.EndToEnd.Budget
import PortalCertificate.EndToEnd.DigestInfo
import PortalCertificate.Module.AttributeReads
import PortalCertificate.Module.LateCalls
import PortalCertificate.Module.MultiPart
import PortalCertificate.Module.Overtaking
import PortalCertificate.Module.OwnerBinding
import PortalCertificate.Module.Paging
import PortalCertificate.Module.PathFreshness
import PortalCertificate.Module.Retirement
import PortalCertificate.Module.RsaMetadata
import PortalCertificate.Module.ObjectHandles
import PortalCertificate.Module.SessionHandles
import PortalCertificate.Module.Slices
import PortalCertificate.Module.Throttling
import PortalCertificate.Module.TokenNeutrality
import PortalCertificate.Tokens.EnumerationResults
import PortalCertificate.Tokens.Events
import PortalCertificate.Tokens.FilterEntries
import PortalCertificate.Tokens.ObjectSearch
import PortalCertificate.Broker.DeviceCalls
import PortalCertificate.Redact
import PortalCertificate.Core.SanitizedText
import PortalCertificate.Core.RowIdentities
