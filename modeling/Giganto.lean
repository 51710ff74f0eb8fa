import Giganto.Net.Digits
import Giganto.Net.SocketAddr
import Giganto.Net.Display
import Giganto.Net.Spellings
import Giganto.Net.RoundTrip
import Giganto.Toml.Document
import Giganto.Toml.Display
import Giganto.Toml.Ser
import Giganto.Toml.De
import Giganto.Serde
import Giganto.Humantime
import Giganto.Peer
import Giganto.Settings.Config
import Giganto.Settings.Decode
import Giganto.Settings.RoundTrip
import Giganto.Settings.Defaults
import Giganto.Settings.Merge
import Giganto.Settings.Reload
import Giganto.Status.Peers
import Giganto.Status.Schema
import Giganto.Status.Resubmit
import Giganto.Status.SettingsDoc
