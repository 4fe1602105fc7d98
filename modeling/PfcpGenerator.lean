import PfcpGenerator.Net.Address
import PfcpGenerator.Session.SeidAllocator
import PfcpGenerator.Session.IpPool
import PfcpGenerator.Pfcp.Ie
import PfcpGenerator.Pfcp.Message
import PfcpGenerator.Pfcp.Modifier
import PfcpGenerator.Network.Transaction
import PfcpGenerator.Session.Manager
import PfcpGenerator.Session.Replay
import PfcpGenerator.Config.Validate
import PfcpGenerator.Session.IpPoolScan
import PfcpGenerator.Session.ReplayPool
import PfcpGenerator.Session.Sequencing
import PfcpGenerator.MockUpf.Server
import PfcpGenerator.MockUpf.Linked
import PfcpGenerator.MockUpf.Lossy
import PfcpGenerator.MockUpf.Teardown
