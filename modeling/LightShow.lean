import LightShow.Audio.Analyzer
import LightShow.Audio.Beat
import LightShow.Audio.Features
import LightShow.Audio.Fourier
import LightShow.Audio.Pcm
import LightShow.Audio.Spectrum
import LightShow.Audio.Wave
import LightShow.Audio.WaveBlocks
import LightShow.Audio.WaveSource
import LightShow.Audio.Window
import LightShow.Bridge.Address
import LightShow.Bridge.Answer
import LightShow.Bridge.Backoff
import LightShow.Bridge.Body
import LightShow.Bridge.BodyJson
import LightShow.Bridge.Clockwork
import LightShow.Bridge.Controller
import LightShow.Bridge.Exchange
import LightShow.Bridge.Pending
import LightShow.Bytes.Layout
import LightShow.Effect.Basic
import LightShow.Effect.Energy
import LightShow.Effect.Pulse
import LightShow.Files.Content
import LightShow.Files.Name
import LightShow.Files.Tree
import LightShow.Json.Reader
import LightShow.Json.Record
import LightShow.Json.Token
import LightShow.Json.Value
import LightShow.Light.Map
import LightShow.Light.Router
import LightShow.Light.Table
import LightShow.Light.Update
import LightShow.Light.UpdateJson
import LightShow.Log.Clock
import LightShow.Log.Directive
import LightShow.Log.Filter
import LightShow.Log.Level
import LightShow.Log.Line
import LightShow.Log.Pattern
import LightShow.Log.Rotation
import LightShow.Main
import LightShow.Number.Binary64
import LightShow.Number.Format
import LightShow.Number.Scalar
import LightShow.Number.Shortest
import LightShow.Proofs.Audio.BeatEnergy
import LightShow.Proofs.Audio.BeatEvents
import LightShow.Proofs.Audio.BeatHistory
import LightShow.Proofs.Audio.BeatInvariance
import LightShow.Proofs.Audio.BeatTempo
import LightShow.Proofs.Audio.BlockFeatures
import LightShow.Proofs.Audio.SpectrumSmoothing
import LightShow.Proofs.Audio.TempoReads
import LightShow.Proofs.Audio.WaveDelivery
import LightShow.Proofs.Audio.WaveOpening
import LightShow.Proofs.Audio.WaveReading
import LightShow.Proofs.Bridge.Backlog
import LightShow.Proofs.Bridge.BackoffEscalation
import LightShow.Proofs.Bridge.BackoffSafety
import LightShow.Proofs.Bridge.BodyRange
import LightShow.Proofs.Bridge.Coalescing
import LightShow.Proofs.Bridge.CommandRun
import LightShow.Proofs.Bridge.FlushDiscipline
import LightShow.Proofs.Bridge.FlushTurns
import LightShow.Proofs.Bridge.History
import LightShow.Proofs.Bridge.Lifecycle
import LightShow.Proofs.Bridge.PendingQueue
import LightShow.Proofs.Bridge.Provenance
import LightShow.Proofs.Bridge.RequestRate
import LightShow.Proofs.Bridge.RetryAfterGrammar
import LightShow.Proofs.Bytes.Layout
import LightShow.Proofs.Effect.EffectLights
import LightShow.Proofs.Effect.PulseFade
import LightShow.Proofs.Files.LogCleanup
import LightShow.Proofs.Json.Loosening
import LightShow.Proofs.Json.RoundTrip
import LightShow.Proofs.Light.RouterLights
import LightShow.Proofs.Light.Routing
import LightShow.Proofs.Log.LogOrder
import LightShow.Proofs.Number.ExactArithmetic
import LightShow.Proofs.Number.NearestShare
import LightShow.Proofs.Number.WholeQuotient
import LightShow.Proofs.Show.PipelineRouting
import LightShow.Proofs.Show.RelayConservation
import LightShow.Proofs.Stream.HashPolynomial
import LightShow.Proofs.Stream.IdHash
import LightShow.Proofs.Stream.PacketFormat
import LightShow.Proofs.Stream.PacketRoundTrip
import LightShow.Proofs.Stream.SessionNumbering
import LightShow.Settings.App
import LightShow.Settings.Audio
import LightShow.Settings.Bridge
import LightShow.Settings.Json
import LightShow.Settings.Log
import LightShow.Settings.Stream
import LightShow.Show.CommandLine
import LightShow.Show.Failure
import LightShow.Show.Pipeline
import LightShow.Show.Playback
import LightShow.Show.Program
import LightShow.Show.Rehearsal
import LightShow.Show.Relay
import LightShow.Stream.HostAddress
import LightShow.Stream.IdHash
import LightShow.Stream.Packet
import LightShow.Stream.Session
import LightShow.Text.Alphanumeric
import LightShow.Text.Blank
import LightShow.Text.Numeral
import LightShow.Text.Printable
import LightShow.Text.Quoted
import LightShow.Toml.Lexeme
import LightShow.Toml.Reader
import LightShow.Toml.Table
import LightShow.Toml.Writer
