import Powermeter.Lib.Lts
import Powermeter.Lib.CStr
import Powermeter.Lib.ByteLoop
import Powermeter.Lib.Sampled
import Powermeter.Lib.Peak
import Powermeter.Lib.Channel
import Powermeter.Lib.Total
import Powermeter.Lib.Provenance
import Powermeter.Lib.Increments
import Powermeter.Lib.Riemann
import Powermeter.Lib.Rounding
import Powermeter.Lib.FixedPoint
import Powermeter.Message
import Powermeter.Server.Ina3221
import Powermeter.Server.PowerMeasurement
import Powermeter.Server.Energy
import Powermeter.Server.Sensors
import Powermeter.Server.Request
import Powermeter.Server.Handoff
import Powermeter.Server.Grammar
import Powermeter.Server.Startup
import Powermeter.Server.Streams
import Powermeter.Server.Sockets
import Powermeter.Server.Restart
import Powermeter.Server.Wifi
import Powermeter.Server.Floats
import Powermeter.Server.Bus
import Powermeter.Server.Registers
import Powermeter.Server.Display
import Powermeter.Client.Subscribe
import Powermeter.Client.Receive
import Powermeter.Client.Relay
import Powermeter.Exporter.Fetch
import Powermeter.Exporter.Metrics
import Powermeter.Exporter.Sessions
import Powermeter.Exporter.Floats
import Powermeter.System.Pipeline
import Powermeter.System.Node
import Powermeter.System.Deployment
import Powermeter.System.Counter
import Powermeter.System.Reboot
import Powermeter.System.Accuracy
import Powermeter.Inference.Snapshot
import Powermeter.Inference.Attribution
import Powermeter.Inference.Namespace
import Powermeter.Inference.Iterations
import Powermeter.System.Accounting
