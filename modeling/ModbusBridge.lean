import ModbusBridge.Effect.Basic
import ModbusBridge.Effect.Lemmas
import ModbusBridge.Effect.Runs
import ModbusBridge.Effect.Triples
import ModbusBridge.Effect.Relational
import ModbusBridge.Effect.Dropped
import ModbusBridge.Effect.Permits
import ModbusBridge.Effect.Exits
import ModbusBridge.Effect.Refinement
import ModbusBridge.Effect.Cost
import ModbusBridge.Effect.Monotonic
import ModbusBridge.Effect.Panic
import ModbusBridge.Dataflow.History
import ModbusBridge.Dataflow.Monitor
import ModbusBridge.Framing.Cut
import ModbusBridge.Framing.Frames
import ModbusBridge.Crc.Register
import ModbusBridge.Crc.Detection
import ModbusBridge.Crc.Remainder
import ModbusBridge.Rust.Slice
import ModbusBridge.Heapless.Vec
import ModbusBridge.EmbeddedIo.Device
import ModbusBridge.EmbeddedIo.WriteAll
import ModbusBridge.EmbeddedIo.MockStream
import ModbusBridge.EmbeddedIo.Uart
import ModbusBridge.EmbeddedIo.Lossless
import ModbusBridge.EmbeddedIo.InOrder
import ModbusBridge.EmbeddedIo.Passive
import ModbusBridge.EmbeddedIo.Polling
import ModbusBridge.EmbeddedIo.Stalling
import ModbusBridge.EmbeddedIo.ReadExact
import ModbusBridge.EmbeddedIo.Delays
import ModbusBridge.EmbeddedIo.Prompt
import ModbusBridge.EmbeddedIo.Bursty
import ModbusBridge.Impl.Error
import ModbusBridge.Impl.Event
import ModbusBridge.Impl.Frame
import ModbusBridge.Impl.Session
import ModbusBridge.Impl.Tcp
import ModbusBridge.Impl.Rtu
import ModbusBridge.Impl.Wait
import ModbusBridge.Impl.Connection
import ModbusBridge.Impl.ClientSession
import ModbusBridge.Impl.Bridge
import ModbusBridge.Impl.Builder
import ModbusBridge.Impl.Capacity
import ModbusBridge.Impl.Checked
import ModbusBridge.Impl.CheckedTransport
import ModbusBridge.Impl.CheckedSession
import ModbusBridge.Spec.Trace
import ModbusBridge.Spec.Frame
import ModbusBridge.Spec.Run
import ModbusBridge.Spec.Mock
import ModbusBridge.Spec.View
import ModbusBridge.Spec.Layout
import ModbusBridge.Spec.Machine
import ModbusBridge.Spec.Bursts
import ModbusBridge.Spec.Work
import ModbusBridge.Spec.Line
import ModbusBridge.Lemmas.Port
import ModbusBridge.Lemmas.Session
import ModbusBridge.Lemmas.Trace
import ModbusBridge.Lemmas.Frame
import ModbusBridge.Lemmas.Crc
import ModbusBridge.Lemmas.Checked
import ModbusBridge.Lemmas.Tcp
import ModbusBridge.Lemmas.Rtu
import ModbusBridge.Lemmas.Wait
import ModbusBridge.Lemmas.CheckedTransport
import ModbusBridge.Lemmas.CheckedSession
import ModbusBridge.Lemmas.ReadExact
import ModbusBridge.Lemmas.Reads
import ModbusBridge.Lemmas.Eof
import ModbusBridge.Lemmas.Send
import ModbusBridge.Lemmas.Receive
import ModbusBridge.Lemmas.Connection
import ModbusBridge.Lemmas.ClientSession
import ModbusBridge.Lemmas.Idle
import ModbusBridge.Lemmas.FirstRead
import ModbusBridge.Lemmas.Agreement
import ModbusBridge.Lemmas.TxEnable
import ModbusBridge.Lemmas.Uart
import ModbusBridge.Lemmas.Lossless
import ModbusBridge.Lemmas.InOrder
import ModbusBridge.Lemmas.Cut
import ModbusBridge.Lemmas.Cycle
import ModbusBridge.Lemmas.CallEvents
import ModbusBridge.Lemmas.Codec
import ModbusBridge.Lemmas.Run
import ModbusBridge.Lemmas.Machine
import ModbusBridge.Lemmas.Prompt
import ModbusBridge.Lemmas.Closing
import ModbusBridge.Lemmas.Bursts
import ModbusBridge.Lemmas.Work
import ModbusBridge.Conformance.Relay
import ModbusBridge.Conformance.Freshness
import ModbusBridge.Conformance.RtuTimeout
import ModbusBridge.Conformance.TxEnable
import ModbusBridge.Conformance.Tunnel
import ModbusBridge.Conformance.Frames
import ModbusBridge.Conformance.OtherCodes
import ModbusBridge.Conformance.RoundTrip
import ModbusBridge.Conformance.Metadata
import ModbusBridge.Conformance.Failures
import ModbusBridge.Conformance.TransactionIds
import ModbusBridge.Conformance.Copies
import ModbusBridge.Conformance.Segmentation
import ModbusBridge.Conformance.BlockingTimeout
import ModbusBridge.Conformance.ErrorDetection
import ModbusBridge.Conformance.Acceptance
import ModbusBridge.Conformance.Parsers
import ModbusBridge.Conformance.Alignment
import ModbusBridge.Conformance.CrcMismatch
import ModbusBridge.Conformance.Fallback
import ModbusBridge.Conformance.CrcDefinition
import ModbusBridge.Conformance.Transmission
import ModbusBridge.Conformance.WaitLoops
import ModbusBridge.Conformance.ExactRead
import ModbusBridge.Conformance.Gateway
import ModbusBridge.Conformance.Refinement
import ModbusBridge.Conformance.TimedCopies
import ModbusBridge.Conformance.Bursts
import ModbusBridge.Conformance.Noise
import ModbusBridge.Conformance.NoisyTunnel
import ModbusBridge.Conformance.Silences
import ModbusBridge.Conformance.Service
import ModbusBridge.Conformance.Work
import ModbusBridge.Conformance.Line
import ModbusBridge.Conformance.CutOff
import ModbusBridge.Conformance.Timeouts
import ModbusBridge.Conformance.Headers
import ModbusBridge.Conformance.Panics
