import Mgnp.ChannelClosing
import Mgnp.SerBoxHeap
import Mgnp.SerBoxStatic
import Mgnp.ChannelDisconnect
import Mgnp.ChannelStateWord
import Mgnp.SerializedMessages
import Mgnp.ChannelReclaim
import Mgnp.ChannelErrors
import Mgnp.ChannelOvertaking
import Mgnp.ChannelParking
import Mgnp.ChannelCapacity
import Mgnp.ChannelFairness
import Mgnp.ChannelFullness
import Mgnp.FrameSlice
import Mgnp.ConnTableFreeList
import Mgnp.ConnTableCleanup
import Mgnp.ConnTableAnswers
import Mgnp.ConnTableIsolation
import Mgnp.ConnTableStreams
import Mgnp.ConnTableLimits
import Mgnp.ConnTableOccupancy
import Mgnp.MachineConnect
import Mgnp.MachineReset
import Mgnp.MachineBytes
import Mgnp.MachineRun
import Mgnp.MachineStreams
import Mgnp.Simulation
import Mgnp.MailboxRuns
import Mgnp.Potential
import Mgnp.MachineDraining
import Mgnp.MachinePipes
import Mgnp.MachineAnswers
import Mgnp.ChannelCalls
import Mgnp.PipedClientCalls
import Mgnp.PipedClientShutdown
import Mgnp.MachineBackpressure
import Mgnp.ReqRspAnswers
import Mgnp.OneshotFifo
import Mgnp.OneshotValues
import Mgnp.OneshotTakeSender
import Mgnp.OneshotClosing
import Mgnp.OneshotTeardown
import Mgnp.OneshotParking
import Mgnp.ConnectorPanics
import Mgnp.PipeCounts
import Mgnp.PipedClientPanics
import Mgnp.ArcPlugTail
import Mgnp.BiDiErrors
import Mgnp.ChannelMailbox
import Mgnp.PrefixAcceptance
import Mgnp.FrameAcceptance
import Mgnp.ChannelProgress
import Mgnp.SerBoxParking
