import Librocket.Lib.Bitfield
import Librocket.Lib.WriteLog
import Librocket.Registers
import Librocket.Command
import Librocket.Npu.Task
import Librocket.Npu.Matmul
import Librocket.Npu.Acceptance
import Librocket.Npu.Readback
import Librocket.Npu.Mesa
import Librocket.Npu.Agreement
import Librocket.Npu.Count
import Librocket.Lib.CArith
import Librocket.Lib.Layout
import Librocket.Npu.Layout
import Librocket.Npu.Packing
import Librocket.Npu.Strides
import Librocket.Lib.Machine
import Librocket.Lib.Ownership
import Librocket.Rocket.Interface
import Librocket.Rocket.Lifecycle
import Librocket.Rocket.Cleanup
import Librocket.Npu.Stubs
import Librocket.Npu.Fields
import Librocket.Npu.Decode
import Librocket.Npu.Coverage
import Librocket.Npu.Twins
import Librocket.Npu.OutputFormat
import Librocket.Npu.Tiling
import Librocket.Rocket.Mapping
import Librocket.Rocket.Process
import Librocket.Rocket.Submit
import Librocket.Rocket.Handover
import Librocket.Rocket.Narrowing
import Librocket.Rocket.Reporting
import Librocket.Lib.Client
import Librocket.Lib.Coherence
import Librocket.Rocket.Device
import Librocket.Rocket.Contexts
import Librocket.Rocket.Isolation
import Librocket.Rocket.Program
import Librocket.Rocket.MatmulTest
import Librocket.Rocket.Teardown
import Librocket.Lib.Bytes
import Librocket.Rocket.Shared
import Librocket.Rocket.Sequential
import Librocket.Rocket.Verdict
import Librocket.Rocket.Linked
import Librocket.Rocket.MinimalTests
import Librocket.Npu.FullStream
import Librocket.Rocket.Commands
import Librocket.Rocket.Misuse
