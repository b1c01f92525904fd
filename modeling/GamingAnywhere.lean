import GamingAnywhere.Audio.Clients
import GamingAnywhere.Control.Handshake
import GamingAnywhere.Control.Messages
import GamingAnywhere.Pipeline.Pool
import GamingAnywhere.Server.Accept
import GamingAnywhere.Control.Wakeup
import GamingAnywhere.Rtsp.Calls
import GamingAnywhere.Rtsp.Interleaved
import GamingAnywhere.Rtsp.Loop
import GamingAnywhere.Encoder.Shutdown
import GamingAnywhere.Server.Connections
import GamingAnywhere.Server.Fanout
import GamingAnywhere.Control.Segments
import GamingAnywhere.Control.Replay
import GamingAnywhere.Control.Clearing
import GamingAnywhere.Rtsp.Sending
import GamingAnywhere.Rtsp.Slots
import GamingAnywhere.Rtsp.SessionHeader
import GamingAnywhere.Config.Dictionary
import GamingAnywhere.Config.Agreement
import GamingAnywhere.Config.Loading
import GamingAnywhere.Config.Options
import GamingAnywhere.Config.Url
import GamingAnywhere.Config.Settings
import GamingAnywhere.Control.Motion
import GamingAnywhere.Control.Transmission
import GamingAnywhere.Audio.Encoding
import GamingAnywhere.Audio.Path
import GamingAnywhere.Video.Encoding
import GamingAnywhere.Video.Filtering
import GamingAnywhere.Video.Planes
import GamingAnywhere.Pipeline.Privdata
import GamingAnywhere.Client.Fragments
import GamingAnywhere.Client.Decoding
import GamingAnywhere.Client.Channels
import GamingAnywhere.Client.Texture
import GamingAnywhere.Video.Capture
import GamingAnywhere.Config.Cursor
import GamingAnywhere.Win32.Counter
import GamingAnywhere.Win32.Sleep
import GamingAnywhere.Control.Path
import GamingAnywhere.Control.Datagrams
import GamingAnywhere.Control.Readnext
import GamingAnywhere.Video.Path
import GamingAnywhere.Client.Display
import GamingAnywhere.Client.Session
import GamingAnywhere.Rtsp.Resources
import GamingAnywhere.Rtsp.Negotiation
import GamingAnywhere.Server.Broadcast
