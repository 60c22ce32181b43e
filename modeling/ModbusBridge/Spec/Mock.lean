import ModbusBridge.EmbeddedIo.MockStream
import ModbusBridge.EmbeddedIo.Uart
import ModbusBridge.Impl.Bridge

/-!
This module contains sessions on the in-memory devices, for evaluating `next` on concrete inputs.
-/

namespace ModbusBridge

open EmbeddedIo

def readRequest : List UInt8 := [0x11, 0x03, 0x00, 0x00, 0x00, 0x0A]

def mockSession (serialRx tcpRx : List UInt8) : Session MockStream MockStream MockDelay Empty Empty :=
  Bridge.accept
    { serial := .withRx serialRx, txEn := false, rtuTimeoutMs := none, tcpTimeoutMs := none, delay := ⟨0⟩ }
    (.withRx tcpRx)

def timedSession (serialRx tcpRx : List UInt8) : Session MockStream MockStream MockDelay Empty Empty :=
  { mockSession serialRx tcpRx with rtuTimeoutMs := some 100, tcpTimeoutMs := some 100 }

def uartSession (script : Nat → Uart.Tick) (rtuTimeoutMs : Option UInt32) (delay : MockDelay)
    (tcpRx : List UInt8) : Session Uart MockStream MockDelay Unit Empty :=
  Bridge.accept
    { serial := .start script, txEn := false, rtuTimeoutMs, tcpTimeoutMs := none, delay }
    (.withRx tcpRx)

end ModbusBridge
