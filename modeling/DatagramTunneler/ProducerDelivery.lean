import DatagramTunneler.ProducerRuns
import DatagramTunneler.Tunnel.Delivery

/-! The producer, the client and the server in a row. The network between the producer and
the client may lose datagrams; what the producer sends is never too long for the client,
so nothing else is lost. -/

set_option autoImplicit false

namespace DatagramTunneler

open Foundation ProducerLoop

namespace ClientLoop

end ClientLoop

namespace DatagramProducer

end DatagramProducer

end DatagramTunneler
