import DatagramTunneler.Tunnel.Delivery
import DatagramTunneler.Tunnel.ClientConnection
import DatagramTunneler.Tunnel.HeartbeatPeriod
import DatagramTunneler.Tunnel.HostOrder
import DatagramTunneler.Tunnel.OversizedDatagrams
import DatagramTunneler.Tunnel.ServerRuns
import DatagramTunneler.Configuration.Layout
import DatagramTunneler.Configuration.WellFormed
import DatagramTunneler.NumericText
import DatagramTunneler.CommandLineOutcomes
import DatagramTunneler.EditorCommand
import DatagramTunneler.LatencyReports
import DatagramTunneler.LiveOutput
import DatagramTunneler.LiveOutput.DisplayPlace
import DatagramTunneler.Control.ControlServiceProperties
import DatagramTunneler.Control.DirectCommand
import DatagramTunneler.Control.FailedCalls
import DatagramTunneler.Control.FinishedWorkers
import DatagramTunneler.Control.StopRequests
import DatagramTunneler.Control.WorkerRegistration
import DatagramTunneler.Control.RuntimeMetrics
import DatagramTunneler.Control.ProducerRequest
import DatagramTunneler.Control.ReceiveRequest
import DatagramTunneler.Control.ControlJson
import DatagramTunneler.Control.SubscriberViews
import DatagramTunneler.Control.FailedClients
import DatagramTunneler.Control.WebSocketAccept
import DatagramTunneler.Control.FrameDecoding
import DatagramTunneler.Dashboard.EditorRoundTrip
import DatagramTunneler.Control.HttpReplies
import DatagramTunneler.Control.SupervisedRuns
import DatagramTunneler.ProducerDelivery
import DatagramTunneler.Dashboard.SavedConfiguration
import DatagramTunneler.Dashboard.LiveEvents
import DatagramTunneler.CommandGrammar
