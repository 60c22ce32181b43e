/-!
This module contains the frame sizes that the crate documents.
-/

namespace ModbusBridge

def regBytes16 : Nat := 2

def rtuCapacity (n regBytes : Nat) : Nat := n * regBytes + 9

def tcpCapacity (n regBytes : Nat) : Nat := n * regBytes + 15

def rtuMax : Nat := rtuCapacity 123 regBytes16

def tcpMax : Nat := tcpCapacity 123 regBytes16

end ModbusBridge
