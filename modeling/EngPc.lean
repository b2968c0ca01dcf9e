import EngPc.Lib.Buffer
import EngPc.Lib.Stuffing
import EngPc.Lib.CString
import EngPc.Model.Types
import EngPc.Model.ProtolDiag
import EngPc.Proofs.DiagCodec
import EngPc.Model.PortRead
import EngPc.Proofs.Reassembly
import EngPc.Proofs.PortReadLoop
import EngPc.Proofs.FrameStream
import EngPc.Model.ModuleMgr
import EngPc.Model.Trans
import EngPc.Proofs.ModuleMgr
import EngPc.Proofs.Router
import EngPc.Lib.Machine
import EngPc.Proofs.Session
import EngPc.Proofs.Interference
import EngPc.Lib.Reach
import EngPc.Model.ChnlGraph
import EngPc.Proofs.ChnlGraph
import EngPc.Proofs.Replies
import EngPc.Model.PortRef
import EngPc.Proofs.PortRef
import EngPc.Model.ThreadLife
import EngPc.Proofs.ThreadLife
import EngPc.Proofs.ThreadRefinement
import EngPc.Lib.SaveRestore
import EngPc.Model.PortAttach
import EngPc.Proofs.PortAttach
import EngPc.Model.PortNotify
import EngPc.Proofs.PortNotify
import EngPc.Lib.LittleEndian
import EngPc.Model.HostMessages
import EngPc.Proofs.HostMessages
import EngPc.Proofs.AtReply
import EngPc.Proofs.HostWrites
import EngPc.Proofs.InvalidInput
import EngPc.Model.PQTune
import EngPc.Proofs.PQTune
import EngPc.Lib.OnesComplement
import EngPc.Lib.PacketStream
import EngPc.Model.ProtolSmp
import EngPc.Proofs.ProtolSmp
import EngPc.Lib.Block
import EngPc.Model.Miscdata
import EngPc.Proofs.Miscdata
import EngPc.Proofs.MiscdataEx
import EngPc.Proofs.MiscdataBuilds
import EngPc.Model.Crc16
import EngPc.Model.BtWifiMac
import EngPc.Proofs.BtWifiStore
import EngPc.Proofs.BtWifiFiles
import EngPc.Model.PhaseCheck
import EngPc.Proofs.PhaseCheck
import EngPc.Proofs.RequestLength
import EngPc.Model.MiscdataRw
import EngPc.Proofs.BtWifiSplit
import EngPc.Model.TimeSync
import EngPc.Proofs.TimeSync
import EngPc.Proofs.PortEnable
import EngPc.Lib.Terminated
import EngPc.Model.UsbEvent
import EngPc.Proofs.UsbEvent
import EngPc.Model.LogLocation
import EngPc.Proofs.LogLocation
import EngPc.Lib.RequestStream
import EngPc.Model.CtlSocket
import EngPc.Proofs.CtlSocket
import EngPc.Lib.CLayout
import EngPc.Model.PQParm
import EngPc.Model.PQMemory
import EngPc.Proofs.PQObject
import EngPc.Proofs.PQSizes
import EngPc.Proofs.PQDownload
import EngPc.Proofs.PQModules
import EngPc.Model.Config
import EngPc.Proofs.Config
import EngPc.Lib.XmlTree
import EngPc.Lib.Decimal
import EngPc.Lib.ReadWrite
import EngPc.Model.PQXml
import EngPc.Model.PQTables
import EngPc.Proofs.PQXmlWalk
import EngPc.Proofs.PQTables
import EngPc.Model.AbcXml
import EngPc.Proofs.PQSafe
import EngPc.Proofs.AbcLists
import EngPc.Proofs.AbcRoundTrip
import EngPc.Proofs.Crc16
import EngPc.Proofs.ChnlLookup
import EngPc.Proofs.ApProcess
import EngPc.Proofs.PortReopen
import EngPc.Proofs.ModuleLoad
import EngPc.Proofs.AtChoice
import EngPc.Proofs.LogRefused
import EngPc.Lib.Countdown
import EngPc.Model.DcxCali
import EngPc.Proofs.DcxCali
import EngPc.Proofs.AfcMode
import EngPc.Lib.ScratchCopy
import EngPc.Model.SlpLtm
import EngPc.Proofs.SlpLtm
import EngPc.Model.PortWrite
import EngPc.Model.AtCommands
import EngPc.Model.HsvRegs
import EngPc.Proofs.HsvRegs
import EngPc.Proofs.RebootParam
import EngPc.Proofs.PropCommands
import EngPc.Proofs.PortWrite
import EngPc.Model.TsxData
import EngPc.Proofs.TsxData
import EngPc.Lib.LineStream
import EngPc.Model.FactoryRadio
import EngPc.Proofs.Readline
import EngPc.Proofs.AtExchange
import EngPc.Model.BbatConfig
import EngPc.Proofs.BbatConfig
import EngPc.Proofs.AbcParams
import EngPc.Proofs.LineTokens
import EngPc.Proofs.ImeiNv
import EngPc.Lib.HexField
import EngPc.Proofs.HexRegs
import EngPc.Model.PanelSize
import EngPc.Proofs.PanelSize
import EngPc.Model.ChargeCurrent
import EngPc.Proofs.ChargeCurrent
import EngPc.Lib.FlagFrame
import EngPc.Proofs.RouterRun
import EngPc.Model.DataClass
import EngPc.Proofs.DataClass
import EngPc.Model.AtTok
import EngPc.Proofs.AtTok
import EngPc.Model.FactoryTests
import EngPc.Proofs.FactoryTests
import EngPc.Proofs.SyncNotices
import EngPc.Model.CpLogCommands
import EngPc.Proofs.CpLogCommands
import EngPc.Model.PartitionChannel
import EngPc.Proofs.PartitionChannel
import EngPc.Model.PortWriters
import EngPc.Proofs.PortWriters
import EngPc.Lib.Grouping
import EngPc.Model.StartUp
import EngPc.Proofs.StartUp
import EngPc.Model.CtlClient
import EngPc.Proofs.CtlClient
import EngPc.Model.PQLaterTables
import EngPc.Proofs.PQKeyedWalk
import EngPc.Proofs.PQLaterTables
import EngPc.Lib.MemberPath
import EngPc.Model.PQFiles
import EngPc.Proofs.PQFiles
import EngPc.Model.MmiResult
import EngPc.Proofs.MmiResult
import EngPc.Lib.Refines
import EngPc.Proofs.PQRefinement
