import Livecast.Json.Texts
import Livecast.Main
import Livecast.PlaybackTime
import Livecast.Proofs.Address.Routes
import Livecast.Proofs.Address.Schemes
import Livecast.Proofs.Address.Streams
import Livecast.Proofs.Api.Fragments
import Livecast.Proofs.Api.Records
import Livecast.Proofs.Capture.Delivery
import Livecast.Proofs.Capture.Forwarding
import Livecast.Proofs.Capture.Segmentation
import Livecast.Proofs.Channel.Grammar
import Livecast.Proofs.Channel.Locality
import Livecast.Proofs.Channel.Normalisation
import Livecast.Proofs.Command.Dispatching
import Livecast.Proofs.Command.Indifference
import Livecast.Proofs.Command.Watching
import Livecast.Proofs.Configuration.Keeping
import Livecast.Proofs.Configuration.Settings
import Livecast.Proofs.Files.Folders
import Livecast.Proofs.Json.Arrangement
import Livecast.Proofs.Json.RoundTrip
import Livecast.Proofs.Json.Scalar
import Livecast.Proofs.Json.Tree
import Livecast.Proofs.Keyring.Catalog
import Livecast.Proofs.Keyring.Sparing
import Livecast.Proofs.Playback.ClockText
import Livecast.Proofs.Playback.Completion
import Livecast.Proofs.Session.Advance
import Livecast.Proofs.Session.Closing
import Livecast.Proofs.Session.Possession
import Livecast.Proofs.Session.Pulse
import Livecast.Proofs.Session.Signals
import Livecast.Proofs.Session.Verdict
import Livecast.Proofs.Text.Encoding
import Livecast.Proofs.Text.Integer
import Livecast.Proofs.Text.Numeral
import Livecast.Proofs.Toml.Tables
import Livecast.Proofs.WebSocket.Ordering
