import ModbusBridge.Lemmas.Bursts

/-!
This module contains what becomes of the asynchronous timed copies of `next` when their deadlines do fire: the bytes of
a frame that does not come in time are lost, and the next call starts with the next burst.
-/

namespace ModbusBridge

open Effect EmbeddedIo Session

variable {S TS D SE TE : Type} [Device S SE] [Device TS TE] [ReadReady S SE] [ReadReady TS TE] [DelayNs D]
  [Bursty S] [Bursty TS]

def burstSession (serialRx tcpRx : Bursts) : Session MockBursts MockBursts MockDelay Empty Empty :=
  Bridge.accept
    { serial := ⟨serialRx⟩, txEn := false, rtuTimeoutMs := some 100, tcpTimeoutMs := some 100, delay := ⟨100⟩ } ⟨tcpRx⟩

theorem burstSession_inBursts (serialRx tcpRx : Bursts)
    : InBursts ⟨serialRx, tcpRx, [], [], 0⟩ (burstSession serialRx tcpRx) where
  serialRx := rfl
  tcpRx := rfl
  serialTx := rfl
  tcpTx := rfl
  transactionId := rfl
  deadline := rfl
  rtuTimeout := ⟨100, rfl, .mock (show 100 < 1000 by decide) 100⟩
  tcpTimeout := ⟨100, rfl, .mock (show 100 < 1000 by decide) 100⟩

/--
The first request is cut off, and so is the response to the second one. The next client is served again.
-/
def lateCalls : List (Call MockBursts) :=
  [.bridge .asyncTimed, .bridge .asyncTimed, .bridge .asyncTimed, .accept ⟨⟨tcpFrame 9 0 readRequest, []⟩⟩,
    .bridge .asyncTimed]

end ModbusBridge
