import FlowSteer.Direction

/-!
# Keys of flows

A flow is named by addresses, ports and protocol. Its key is written as thirteen bytes, hashed,
and the hash is folded into the space of flow ids.
-/

namespace FlowSteer

/-- The five fields that name a flow. -/
structure FlowKey where
  sourceAddress : UInt32
  targetAddress : UInt32
  sourcePort : UInt16
  targetPort : UInt16
  protocol : UInt8
deriving DecidableEq, Inhabited

namespace FlowKey

/-- The two bytes of a 16-bit word, high byte first. -/
def bytes16 (word : UInt16) : List UInt8 := [(word >>> 8).toUInt8, word.toUInt8]

/-- The four bytes of a 32-bit word, highest byte first. -/
def bytes32 (word : UInt32) : List UInt8 :=
  [(word >>> 24).toUInt8, (word >>> 16).toUInt8, (word >>> 8).toUInt8, word.toUInt8]

/-- The thirteen bytes of a key: both addresses, both ports, the protocol. -/
def encode (key : FlowKey) : List UInt8 :=
  bytes32 key.sourceAddress ++ bytes32 key.targetAddress ++ bytes16 key.sourcePort ++
    bytes16 key.targetPort ++ [key.protocol]

end FlowKey

namespace StreamHash

/-- State of the hash before the first byte. -/
def offset : UInt64 := 0xcbf29ce484222325

/-- Factor by which each byte spreads through the state. -/
def prime : UInt64 := 0x100000001b3

/-- Takes one byte into the state: exclusive or, then multiplication modulo `2 ^ 64`. -/
def step (state : UInt64) (byte : UInt8) : UInt64 := (state ^^^ byte.toUInt64) * prime

/-- Takes bytes into the state one after another. -/
def run (state : UInt64) (bytes : List UInt8) : UInt64 := bytes.foldl step state

end StreamHash

/-- Number of flow ids. -/
def flowIdSpace : Nat := 0xFFFF

/-- Folds a hash into the space of flow ids. -/
def flowIdOfHash (hash : UInt64) : FlowId := hash.toNat % flowIdSpace

namespace FlowKey

/-- Hash of a key. -/
def hash (key : FlowKey) : UInt64 := StreamHash.run StreamHash.offset key.encode

/-- Id of the flow that a key names. -/
def flowId (key : FlowKey) : FlowId := flowIdOfHash key.hash

end FlowKey

end FlowSteer
