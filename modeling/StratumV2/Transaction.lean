import StratumV2.Encoding

/-!
# Stratum V2: transactions, block headers and merkle paths

The parts of Bitcoin's consensus encoding that the standard channel relies on: the coinbase
transaction (`Transaction::consensus_encode`, with BIP-141 witness data, and the txid over the
encoding without it), the 80-byte block header and its hash, the merkle root of a coinbase
from its merkle path, and the decoder of transaction outputs that reads back the
`coinbase_tx_outputs` of a template.

Double SHA-256 is a parameter `sha256d` of every hashing function here; nothing below depends
on what it computes.
-/

namespace StratumV2

/-- The all-zero 32-byte value. -/
def Hash32.zero : Hash32 :=
  ⟨List.replicate 32 0, by simp⟩

/-- `bitcoin::OutPoint`. -/
structure OutPoint where
  txid : Hash32
  vout : UInt32
deriving DecidableEq

/-- `OutPoint::null()`, the previous output of a coinbase input. -/
def OutPoint.null : OutPoint :=
  ⟨Hash32.zero, 0xffffffff⟩

/-- `bitcoin::TxIn`. -/
structure TxIn where
  previousOutput : OutPoint
  scriptSig : List UInt8
  sequence : UInt32
  witness : List (List UInt8)
deriving DecidableEq

/-- `bitcoin::TxOut`: an amount in satoshis and a locking script. -/
structure TxOut where
  value : UInt64
  scriptPubkey : List UInt8
deriving DecidableEq

/-- `bitcoin::Transaction`; the `i32` version is kept as its 32-bit pattern, which is what
the encoding writes. -/
structure Transaction where
  version : UInt32
  lockTime : UInt32
  input : List TxIn
  output : List TxOut
deriving DecidableEq

/-- A list with its `CompactSize` length prefix, as `Vec<T>` encodes. -/
def encodeList {α : Type} (enc : α → List UInt8) (xs : List α) : List UInt8 :=
  compactSize xs.length ++ (xs.map enc).flatten

def OutPoint.consensusEncode (o : OutPoint) : List UInt8 :=
  o.txid.bytes ++ leBytes 4 o.vout.toNat

def TxIn.consensusEncode (i : TxIn) : List UInt8 :=
  i.previousOutput.consensusEncode ++ varBytes i.scriptSig ++ leBytes 4 i.sequence.toNat

def TxOut.consensusEncode (o : TxOut) : List UInt8 :=
  leBytes 8 o.value.toNat ++ varBytes o.scriptPubkey

/-- `Witness::consensus_encode`: the number of items, then each item with its length. -/
def encodeWitness (w : List (List UInt8)) : List UInt8 :=
  encodeList varBytes w

/-- `Transaction::uses_segwit_serialization`: some input has witness data, or there is no
input at all. -/
def Transaction.usesSegwitSerialization (tx : Transaction) : Bool :=
  tx.input.any (fun i => !i.witness.isEmpty) || tx.input.isEmpty

/-- The legacy encoding, without marker, flag and witnesses: what the txid hashes. -/
def Transaction.encodeNoWitness (tx : Transaction) : List UInt8 :=
  leBytes 4 tx.version.toNat ++ encodeList TxIn.consensusEncode tx.input ++
    encodeList TxOut.consensusEncode tx.output ++ leBytes 4 tx.lockTime.toNat

/-- `Transaction::consensus_encode`. -/
def Transaction.consensusEncode (tx : Transaction) : List UInt8 :=
  if tx.usesSegwitSerialization then
    leBytes 4 tx.version.toNat ++ [0x00, 0x01] ++ encodeList TxIn.consensusEncode tx.input ++
      encodeList TxOut.consensusEncode tx.output ++
      (tx.input.map (fun i => encodeWitness i.witness)).flatten ++ leBytes 4 tx.lockTime.toNat
  else tx.encodeNoWitness

/-- `Transaction::compute_txid`. -/
def Transaction.computeTxid (sha256d : List UInt8 → Hash32) (tx : Transaction) : Hash32 :=
  sha256d tx.encodeNoWitness

/-- `bitcoin::block::Header`; the `i32` version is kept as its 32-bit pattern. -/
structure Header where
  version : UInt32
  prevBlockhash : Hash32
  merkleRoot : Hash32
  time : UInt32
  bits : UInt32
  nonce : UInt32
deriving DecidableEq

/-- The 80-byte consensus encoding of a block header. -/
def Header.consensusEncode (h : Header) : List UInt8 :=
  leBytes 4 h.version.toNat ++ h.prevBlockhash.bytes ++ h.merkleRoot.bytes ++
    leBytes 4 h.time.toNat ++ leBytes 4 h.bits.toNat ++ leBytes 4 h.nonce.toNat

/-- A header serializes to 80 bytes. -/
@[simp] theorem Header.length_consensusEncode (h : Header) :
    h.consensusEncode.length = 80 := by
  simp [Header.consensusEncode, h.prevBlockhash.length_eq, h.merkleRoot.length_eq]

/-- `Header::block_hash`. -/
def Header.blockHash (sha256d : List UInt8 → Hash32) (h : Header) : Hash32 :=
  sha256d h.consensusEncode

/-- The merkle root of the block whose first transaction has id `coinbaseId`, given the
merkle path of that transaction: each step hashes the running value with the next sibling. -/
def merkleRootFromPath (sha256d : List UInt8 → Hash32) (coinbaseId : Hash32)
    (path : List Hash32) : Hash32 :=
  path.foldl (fun acc sibling => sha256d (acc.bytes ++ sibling.bytes)) coinbaseId

/-- `TxOut::consensus_decode`: an 8-byte amount, then a script with its length. -/
def TxOut.consensusDecode (l : List UInt8) : Option (TxOut × List UInt8) :=
  match takeLe 8 l with
  | none => none
  | some (value, r) =>
      match decodeCompactSize r with
      | none => none
      | some (len, r) =>
          match takeBytes len r with
          | none => none
          | some (script, r) => some (⟨UInt64.ofNat value, script⟩, r)

/-- Decodes `k` consecutive outputs. -/
def decodeTxOuts : Nat → List UInt8 → Option (List TxOut × List UInt8)
  | 0, l => some ([], l)
  | k + 1, l =>
      match TxOut.consensusDecode l with
      | none => none
      | some (o, r) =>
          match decodeTxOuts k r with
          | none => none
          | some (os, r) => some (o :: os, r)

end StratumV2
