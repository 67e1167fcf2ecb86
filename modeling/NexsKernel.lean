import NexsKernel.Bitfield.Tags
import NexsKernel.Boot.Cutting
import NexsKernel.Boot.Overflow
import NexsKernel.Boot.ReserveCalls
import NexsKernel.Boot.Rootserver
import NexsKernel.CSpace.Authority
import NexsKernel.CSpace.Placement
import NexsKernel.CSpace.Reset
import NexsKernel.CSpace.Zombie
import NexsKernel.Capdl.Conflicts
import NexsKernel.Capdl.Delivery
import NexsKernel.Capdl.Parents
import NexsKernel.Capdl.Placement
import NexsKernel.Capdl.Prefill
import NexsKernel.Machine.FpuRun
import NexsKernel.Mcs.BadgedSends
import NexsKernel.Mcs.Priorities
import NexsKernel.Sdf.Kept
import NexsKernel.Smp.Progress
import NexsKernel.Sporadic.ClockSafe
import NexsKernel.Sporadic.Loops
import NexsKernel.System.LookupFp
import NexsKernel.Tool.Aarch64Walks
import NexsKernel.Tool.Agreement
import NexsKernel.Tool.Allocate
import NexsKernel.Tool.CopyData
import NexsKernel.Tool.ElfWriter
import NexsKernel.Tool.RiscvWalks
import NexsKernel.Vcpu.Inject
import NexsKernel.Vspace.Tags
import NexsKernel.Vspace.Translation
