import Xendbg.Ring
import Xendbg.Monitor.ReadEvents
import Xendbg.Monitor.Protocol
import Xendbg.Monitor.Refinement
import Xendbg.Domain.PauseTracker
import Xendbg.Domain.Registers
import Xendbg.Domain.PageTable
import Xendbg.Domain.PageWalk
import Xendbg.Domain.Control
import Xendbg.Gdb.QueryResponse
