import SpeechMesh.Soundness.AutoUpdate
import SpeechMesh.Soundness.ManifestSelection
import SpeechMesh.Soundness.ProviderListing
import SpeechMesh.Soundness.ProviderSaves
import SpeechMesh.Soundness.ProviderRaces
import SpeechMesh.Soundness.ConfigBlocks
import SpeechMesh.Soundness.VoiceBindings
import SpeechMesh.Soundness.SessionFrames
import SpeechMesh.Soundness.ExplicitAgent
import SpeechMesh.Soundness.AudioChunks
import SpeechMesh.Soundness.WavEncoding
import SpeechMesh.Soundness.UploadForms
import SpeechMesh.Soundness.PartialUploads
import SpeechMesh.Soundness.ClientRelease
import SpeechMesh.Soundness.FailedStarts
import SpeechMesh.Soundness.DeviceReports
import SpeechMesh.Soundness.RouteValidity
import SpeechMesh.Soundness.Requests
import SpeechMesh.Soundness.DeviceVerdicts
import SpeechMesh.Soundness.TtsSuccess
import SpeechMesh.Soundness.AsrSessions
import SpeechMesh.Model.Footprints
import SpeechMesh.Async.Log
import SpeechMesh.Soundness.SessionPrograms
import SpeechMesh.Soundness.SessionDelivery
import SpeechMesh.Soundness.SessionOnce
import SpeechMesh.Soundness.AgentIsolation
import SpeechMesh.Soundness.DuplicatePlayback
import SpeechMesh.Soundness.Reconnect
import SpeechMesh.Soundness.AnnouncedModes
import SpeechMesh.Soundness.AdvertisedModes
import SpeechMesh.Soundness.RevisionStream
import SpeechMesh.Soundness.SpokenAudio
import SpeechMesh.Soundness.ClientSessions
import SpeechMesh.Soundness.TranscriptTimes
import SpeechMesh.Soundness.HexDigits
import SpeechMesh.Soundness.StderrSummaries
import SpeechMesh.Soundness.MeloText
import SpeechMesh.Soundness.ControlUrls
import SpeechMesh.Soundness.EndpointRouting
import SpeechMesh.Soundness.AppleSessions
import SpeechMesh.Soundness.PlayerShutdown
import SpeechMesh.Soundness.FailedStartRecords
