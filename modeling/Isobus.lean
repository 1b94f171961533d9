import Isobus.ExtendedTransportProtocol.EndToEnd
import Isobus.ExtendedTransportProtocol.Completion
import Isobus.NetworkManager.AddressBounds
import Isobus.NetworkManager.Reconnect
import Isobus.Example1200PT.CalibrationSettings
import Isobus.Example1200PT.Outputs
import Isobus.Heartbeats.Agreement
import Isobus.TaskController.Robustness
import Isobus.TaskClient.Upload
import Isobus.VirtualTerminal.MacroPackets
import Isobus.VirtualTerminal.PoolBounds
import Isobus.VirtualTerminal.PoolIndependence
import Isobus.VirtualTerminal.PoolReport
import Isobus.VirtualTerminal.PoolScaling
import Isobus.VirtualTerminal.ChildMoves
import Isobus.VirtualTerminal.ListItems
import Isobus.VirtualTerminal.Pictures
import Isobus.DeviceDescriptor.IsoXmlFaithful
import Isobus.TaskClient.LabelSearch
import Isobus.ShortcutButton.Pair
import Isobus.Diagnostics.Dm22Answers
import Isobus.Diagnostics.IdentificationRequests
import Isobus.Diagnostics.Suspension
import Isobus.Diagnostics.TroubleCodeLists
import Isobus.TaskController.CommandAgreement
import Isobus.TaskClient.DefaultTriggers
import Isobus.TaskClient.DistanceTriggers
import Isobus.TaskClient.Thresholds
import Isobus.Guidance.Curvature
import Isobus.MaintainPower.KeySwitch
import Isobus.Reception.Interfaces
import Isobus.VirtualTerminalClient.MaskHistory
import Isobus.VirtualTerminalClient.Validation
import Isobus.VirtualTerminalClient.AuxiliaryAssignments
import Isobus.VirtualTerminalClient.VersionMatching
import Isobus.VirtualTerminalClient.RedundantCommands
import Isobus.TaskController.StatusReports
import Isobus.TransportProtocol.ReceiveWindow
import Isobus.HardwareIntegration.TransmitOrder
import Isobus.NetworkManager.RequestAnswers
import Isobus.HardwareIntegration.ChannelTurns
import Isobus.FunctionalityReport.Report
import Isobus.Can.MessageData
import Isobus.Can.IdentifierCodec
import Isobus.Can.BitField
import Isobus.Delivery
import Isobus.Utility.EventDispatcher
import Isobus.Utility.LockFreeQueue
