import SmokeProbe.Main
import SmokeProbe.Probe.Session
import SmokeProbe.Proofs.BaseUrlText
import SmokeProbe.Proofs.BoundedSink
import SmokeProbe.Proofs.CredentialIsolation
import SmokeProbe.Proofs.ExchangeHops
import SmokeProbe.Proofs.InterruptedRun
import SmokeProbe.Proofs.KeyOrder
import SmokeProbe.Proofs.RedirectChain
import SmokeProbe.Proofs.ReplyAccounting
import SmokeProbe.Proofs.RequestHeaders
import SmokeProbe.Proofs.RequestRoundTrip
import SmokeProbe.Proofs.SendHops
import SmokeProbe.Proofs.Userinfo
import SmokeProbe.Proofs.HostDelimiters
import SmokeProbe.Proofs.HostAndPort
import SmokeProbe.Proofs.ProgramRun
import SmokeProbe.Proofs.OneLineFailures
import SmokeProbe.Proofs.ReportText
import SmokeProbe.Proofs.HeadReading
import SmokeProbe.Proofs.ChunkGrammar
import SmokeProbe.Proofs.HeadGrammar
import SmokeProbe.Proofs.FramedReplies
import SmokeProbe.Proofs.TruncatedReplies
import SmokeProbe.Proofs.ArgumentGroups
import SmokeProbe.Proofs.CauseChain
import SmokeProbe.Proofs.ChunkReading
import SmokeProbe.Proofs.CarriedMessages
import SmokeProbe.Proofs.FramingIndependence
import SmokeProbe.Proofs.MediaTypeGrammar
import SmokeProbe.Proofs.UnicodeDecoding
import SmokeProbe.Proofs.BodyText
import SmokeProbe.Proofs.UsableBaseUrl
import SmokeProbe.Proofs.ProbeLog
import SmokeProbe.Proofs.MalformedBytes
import SmokeProbe.Proofs.DoubleNumerals
import SmokeProbe.Proofs.CanonicalValues
import SmokeProbe.Proofs.CanonicalEncoding
import SmokeProbe.Proofs.Base64Decoding
import SmokeProbe.Proofs.PercentDecoding
import SmokeProbe.Proofs.BlankBaseUrl
import SmokeProbe.Proofs.CarriedCredentials
