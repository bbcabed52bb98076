import UsbThroughput.Main
import UsbThroughput.Program
import UsbThroughput.Rig.Event
import UsbThroughput.Script.Device
import UsbThroughput.Script.Stack
import UsbThroughput.Stack.Event
import UsbThroughput.Proofs.Rig.History
import UsbThroughput.Proofs.Run.Move
import UsbThroughput.Proofs.Benchmark.CallOrder
import UsbThroughput.Proofs.Benchmark.Recovery
import UsbThroughput.Proofs.Benchmark.Ownership
import UsbThroughput.Proofs.Benchmark.Refinement
import UsbThroughput.Proofs.Script.Faithful
import UsbThroughput.Proofs.Benchmark.Faults
import UsbThroughput.Proofs.Benchmark.Leaks
import UsbThroughput.Proofs.Benchmark.Timeouts
import UsbThroughput.Proofs.Session.Conversation
import UsbThroughput.Proofs.Benchmark.Progress
import UsbThroughput.Proofs.Benchmark.Batches
import UsbThroughput.Proofs.Benchmark.Commands
import UsbThroughput.Proofs.Program.Brackets
import UsbThroughput.Proofs.Benchmark.Boundary
import UsbThroughput.Proofs.Benchmark.Draining
import UsbThroughput.Proofs.Meter.Totals
import UsbThroughput.Proofs.Program.Status
import UsbThroughput.Proofs.Meter.Clock
import UsbThroughput.Proofs.Benchmark.Addressing
import UsbThroughput.Proofs.Slot.Representation
