import NrfSdk.Machine.Word
import NrfSdk.Machine.Memory
import NrfSdk.PcmMix.Mix
import NrfSdk.PcmMix.Properties
import NrfSdk.Ndef.RecordParser
import NrfSdk.Ndef.MsgParser
import NrfSdk.Ndef.Safety
import NrfSdk.AtParser.Lexer
import NrfSdk.AtParser.Parser
import NrfSdk.AtParser.History
import NrfSdk.AtParser.Tokens
import NrfSdk.AtParser.Numbers
import NrfSdk.Machine.Blocks
import NrfSdk.Mesh.TimeUtil
import NrfSdk.Mesh.TimeSrv
import NrfSdk.Mesh.Transition
import NrfSdk.Machine.Run
import NrfSdk.Mesh.Scheduler
import NrfSdk.Mesh.SchedulerSrv
import NrfSdk.Downloader.Http
import NrfSdk.Ble.PacketTrans
import NrfSdk.Sms.StringConversion
import NrfSdk.Sms.Submit
import NrfSdk.Sms.Deliver
import NrfSdk.Sms.RoundTrip
import NrfSdk.Dfu.Jimi
import NrfSdk.Dfu.Steps
import NrfSdk.Dfu.Transfer
import NrfSdk.Dfu.Run
import NrfSdk.Dfu.Completion
import NrfSdk.Machine.Bits
import NrfSdk.ContinArray.BufCreate
import NrfSdk.ContinArray.Placement
import NrfSdk.Ble.Receive
import NrfSdk.Dfu.Framing
import NrfSdk.Tool.Schedule
import NrfSdk.Machine.System
import NrfSdk.Machine.Rounding
import NrfSdk.Lte.Retrans
import NrfSdk.Lte.Response
import NrfSdk.Lte.Recv
import NrfSdk.Gsensor.StateMachine
import NrfSdk.Tool.Coordinate
import NrfSdk.CmdSetting.Analyse
import NrfSdk.CmdSetting.AnalyseFields
import NrfSdk.Tool.MacStr
import NrfSdk.Tool.Hex
import NrfSdk.Machine.LittleEndian
import NrfSdk.Mesh.SensorTypes
import NrfSdk.Ndef.Encode
import NrfSdk.Ndef.RoundTrip
import NrfSdk.T2t.Parser
import NrfSdk.T2t.Chain
import NrfSdk.Pscm.Interleave
import NrfSdk.Pscm.Safety
import NrfSdk.Pscm.RoundTrip
import NrfSdk.LteLc.Psm
import NrfSdk.LteLc.PsmTimer
import NrfSdk.LteLc.PsmRoundTrip
import NrfSdk.Machine.RingView
import NrfSdk.RingBuf.Buffer
import NrfSdk.RingBuf.Session
import NrfSdk.Ctrl.SwipeCache
import NrfSdk.Ctrl.SwipeLru
import NrfSdk.Machine.BitWindow
import NrfSdk.Sms.Packing
import NrfSdk.Tool.Validate
import NrfSdk.Ctrl.NfcAuth
import NrfSdk.Ctrl.NfcAuthTable
import NrfSdk.Ctrl.NfcAuthRun
import NrfSdk.BleScan.AdParse
import NrfSdk.BleScan.Tables
import NrfSdk.BleScan.Upload
import NrfSdk.BleScan.Scanner
import NrfSdk.BleScan.Invariant
import NrfSdk.BleScan.Session
import NrfSdk.BleScan.Radio
import NrfSdk.Pm.Device
import NrfSdk.Pm.Run
