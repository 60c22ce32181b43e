import ModbusBridge.Impl.Bridge

/-!
This module contains the builders. `BridgeBuilder` and `ClientBuilder` have the same fields and their methods the same
bodies, so one definition of each serves both modes.
-/

namespace ModbusBridge

structure NoDelay where

/--
The pin of a transceiver that finds the direction itself. Nobody sees its level.
-/
def noPin : Bool := false

/--
`S` and `TX` are `Unit` until the serial port is supplied, and `D` is `NoDelay` until a delay provider is. The type of
a pin is `Bool`: the level that it has.
-/
structure BridgeBuilder (S TX D : Type) where
  serial : S
  txEn : TX
  rtuTimeoutMs : Option UInt32
  tcpTimeoutMs : Option UInt32
  delay : D

namespace BridgeBuilder

variable {S TX D : Type}

def new : BridgeBuilder Unit Unit NoDelay where
  serial := ()
  txEn := ()
  rtuTimeoutMs := none
  tcpTimeoutMs := none
  delay := {}

def rtu (b : BridgeBuilder Unit Unit D) (serial : S) (txEn : TX) : BridgeBuilder S TX D where
  serial
  txEn
  rtuTimeoutMs := b.rtuTimeoutMs
  tcpTimeoutMs := b.tcpTimeoutMs
  delay := b.delay

def rtuNoPin (b : BridgeBuilder Unit Unit D) (serial : S) : BridgeBuilder S Bool D where
  serial
  txEn := noPin
  rtuTimeoutMs := b.rtuTimeoutMs
  tcpTimeoutMs := b.tcpTimeoutMs
  delay := b.delay

def rtuTimeout (b : BridgeBuilder S TX D) (ms : UInt32) : BridgeBuilder S TX D := { b with rtuTimeoutMs := some ms }

def tcpTimeout (b : BridgeBuilder S TX D) (ms : UInt32) : BridgeBuilder S TX D := { b with tcpTimeoutMs := some ms }

def withDelay (b : BridgeBuilder S TX NoDelay) (delay : D) : BridgeBuilder S TX D where
  serial := b.serial
  txEn := b.txEn
  rtuTimeoutMs := b.rtuTimeoutMs
  tcpTimeoutMs := b.tcpTimeoutMs
  delay

/--
`Bridge::from_parts`, or `Client::from_parts`
-/
def build (b : BridgeBuilder S Bool D) : Bridge S D where
  serial := b.serial
  txEn := b.txEn
  rtuTimeoutMs := b.rtuTimeoutMs
  tcpTimeoutMs := b.tcpTimeoutMs
  delay := b.delay

end BridgeBuilder

end ModbusBridge
