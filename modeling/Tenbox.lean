import Tenbox.Bytes
import Tenbox.Device.IoApic
import Tenbox.Device.IoApicWindow
import Tenbox.Device.AcpiPm
import Tenbox.Runtime.Hex
import Tenbox.Runtime.Message
import Tenbox.Runtime.Framing
import Tenbox.Runtime.Service
import Tenbox.Runtime.Ports
import Tenbox.VdAgent.Protocol
import Tenbox.VdAgent.Send
import Tenbox.VdAgent.Handlers
import Tenbox.VdAgent.Receive
import Tenbox.VdAgent.Stream
import Tenbox.VdAgent.RoundTrip
import Tenbox.Ui.DisplayPanel
import Tenbox.Ui.PanelInput
import Tenbox.Vmm.Run
import Tenbox.Vmm.Memory
