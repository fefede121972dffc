import Mathlib

/-!
# Stratum V2: byte encodings

The little-endian integer encodings and the Bitcoin `CompactSize` length prefix that the
channel uses when it serializes block headers and coinbase transactions, together with the
decoder of `CompactSize` used when the coinbase outputs of a template are read back.

A 32-byte hash is a `Hash32`, a byte list that carries its length.  A `Target` is an unsigned
256-bit integer; a hash is compared with a target after reading its bytes as a little-endian
integer (`Hash32.toTarget`), as `Target::from([u8; 32])` and `Target::is_met_by` do.
-/

namespace StratumV2

/-- The `w` little-endian bytes of `n` (the low `8 * w` bits), as `to_le_bytes`. -/
def leBytes : Nat → Nat → List UInt8
  | 0, _ => []
  | w + 1, n => UInt8.ofNat (n % 256) :: leBytes w (n / 256)

/-- The value of a byte list read as a little-endian integer. -/
def leNat : List UInt8 → Nat
  | [] => 0
  | b :: bs => b.toNat + 256 * leNat bs

@[simp] theorem leBytes_zero (n : Nat) : leBytes 0 n = [] := rfl

@[simp] theorem leBytes_succ (w n : Nat) :
    leBytes (w + 1) n = UInt8.ofNat (n % 256) :: leBytes w (n / 256) := rfl

@[simp] theorem leNat_nil : leNat [] = 0 := rfl

@[simp] theorem leNat_cons (b : UInt8) (bs : List UInt8) :
    leNat (b :: bs) = b.toNat + 256 * leNat bs := rfl

@[simp] theorem length_leBytes (w n : Nat) : (leBytes w n).length = w := by
  induction w generalizing n with
  | zero => rfl
  | succ w ih => simp [ih]

theorem leNat_lt (l : List UInt8) : leNat l < 256 ^ l.length := by
  induction l with
  | nil => simp
  | cons b bs ih =>
      have hb : b.toNat < 256 := b.toNat_lt_size
      rw [leNat_cons, List.length_cons, Nat.pow_succ]
      omega

/-- `CompactSize`, the variable-length integer that prefixes every length in Bitcoin's
consensus encoding. -/
def compactSize (n : Nat) : List UInt8 :=
  if n < 0xfd then [UInt8.ofNat n]
  else if n ≤ 0xffff then 0xfd :: leBytes 2 n
  else if n ≤ 0xffffffff then 0xfe :: leBytes 4 n
  else 0xff :: leBytes 8 n

/-- A byte string with its `CompactSize` length prefix, as `Vec<u8>` and `ScriptBuf` encode. -/
def varBytes (b : List UInt8) : List UInt8 :=
  compactSize b.length ++ b

/-- Splits off the first `w` bytes as a little-endian integer, if there are `w` bytes. -/
def takeLe (w : Nat) (l : List UInt8) : Option (Nat × List UInt8) :=
  if w ≤ l.length then some (leNat (l.take w), l.drop w) else none

/-- Splits off the first `w` bytes, if there are `w` bytes. -/
def takeBytes (w : Nat) (l : List UInt8) : Option (List UInt8 × List UInt8) :=
  if w ≤ l.length then some (l.take w, l.drop w) else none

/-- A decoded integer, kept only if it is at least `least`. -/
def atLeast (least : Nat) : Option (Nat × List UInt8) → Option (Nat × List UInt8)
  | some (n, r) => if least ≤ n then some (n, r) else none
  | none => none

/-- Decoding of `CompactSize`; a value written with more bytes than it needs is rejected, as
`bitcoin`'s `VarInt` decoder rejects a non-minimal encoding. -/
def decodeCompactSize : List UInt8 → Option (Nat × List UInt8)
  | [] => none
  | b :: rest =>
      if b.toNat < 0xfd then some (b.toNat, rest)
      else if b.toNat = 0xfd then atLeast 0xfd (takeLe 2 rest)
      else if b.toNat = 0xfe then atLeast 0x10000 (takeLe 4 rest)
      else atLeast 0x100000000 (takeLe 8 rest)

/-- A 32-byte hash, `sha256d::Hash` and every other 32-byte value the channel handles. -/
structure Hash32 where
  bytes : List UInt8
  length_eq : bytes.length = 32
deriving DecidableEq

/-- An unsigned 256-bit integer: targets, and hashes read as numbers. -/
abbrev Target := Fin (2 ^ 256)

/-- A hash read as a little-endian 256-bit integer. -/
def Hash32.toTarget (h : Hash32) : Target :=
  ⟨leNat h.bytes, by simpa [h.length_eq] using leNat_lt h.bytes⟩

end StratumV2
