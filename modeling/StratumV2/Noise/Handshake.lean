import StratumV2.Transaction

/-!
# Stratum V2: the Noise handshake state

The state of the Noise NX responder (`noise-sv2/src/responder.rs`) and the operations of the
traits `CipherState` and `HandshakeOp` it implements.  The traits' provided methods live in
`handshake.rs` and `cipher_state.rs`, which are not among the sources; they follow the spec
(§4.6, primitive contracts), and where the spec is silent, the Noise framework: without a key,
encryption and decryption leave the buffer as it is.

The cryptography is taken as the fields of `NoisePrimitives`: SHA-256 and HKDF, the
ChaCha20-Poly1305 AEAD, the secp256k1 operations and the random number generator, whose state
is threaded through the calls that draw from it.  An AEAD instance is kept as the key it was
built from.

Encryption appends the 16-byte tag (`length_encrypt`) and never fails: `encrypt_in_place`
into a `Vec` fails only for messages beyond ChaCha20-Poly1305's limit of about `2 ^ 38`
bytes, and the handshake encrypts 64 and 74 bytes.  Decryption fails when the tag does not
verify.
-/

namespace StratumV2

/-- The key overwritten with zeros byte by byte, as `for b in k { write_volatile(b, 0) }`. -/
def Hash32.zeroed (x : Hash32) : Hash32 :=
  ⟨x.bytes.map fun _ => 0, by rw [List.length_map, x.length_eq]⟩

@[simp] theorem Hash32.zeroed_eq (x : Hash32) : x.zeroed = Hash32.zero := by
  obtain ⟨bytes, hlen⟩ := x
  simp only [Hash32.zeroed, Hash32.zero, Hash32.mk.injEq, List.map_const', hlen]

namespace Noise

/-- A 64-byte value: an ElligatorSwift encoding of a public key, or a Schnorr signature. -/
structure Bytes64 where
  bytes : List UInt8
  length_eq : bytes.length = 64
deriving DecidableEq

/-- `secp256k1::Keypair`: a secret key and its public key. -/
structure Keypair where
  secretKey : Hash32
  publicKey : List UInt8
deriving DecidableEq

/-- `aes_gcm::Error`, the AEAD's error, which carries nothing. -/
structure AeadError where
deriving DecidableEq

/-- The functions the responder takes from its dependencies. -/
structure NoisePrimitives (Rng : Type) where
  sha256 : List UInt8 → Hash32
  /-- HKDF with two outputs, of a chaining key and input key material. -/
  hkdf2 : Hash32 → List UInt8 → Hash32 × Hash32
  /-- ChaCha20-Poly1305 with a key, a nonce and associated data: ciphertext and tag. -/
  encrypt : Hash32 → UInt64 → List UInt8 → List UInt8 → List UInt8
  length_encrypt : ∀ k n ad m, (encrypt k n ad m).length = m.length + 16
  decrypt : Hash32 → UInt64 → List UInt8 → List UInt8 → Option (List UInt8)
  /-- `SecretKey::from_slice` accepts the bytes: a scalar in range. -/
  validSecretKey : Hash32 → Bool
  publicKey : Hash32 → List UInt8
  /-- The serialized x-only public key. -/
  xOnlyPublicKey : List UInt8 → Hash32
  ellswiftFromPubkey : List UInt8 → Bytes64
  /-- `ElligatorSwift::shared_secret` of the peer's and our encodings and our secret key, for
  party B with no extra data. -/
  sharedSecret : Bytes64 → Bytes64 → Hash32 → Hash32
  generateKeyWithRng : Rng → Keypair × Rng
  /-- `SignatureNoiseMessage::sign_with_rng`: the authority's Schnorr signature of the first 10
  bytes of the message and the static x-only key. -/
  signWithRng : List UInt8 → Hash32 → Keypair → Rng → Bytes64 × Rng
  /-- The keypair `Keypair::non_secure_erase` writes over a keypair. -/
  erasedKeypair : Keypair

/-- Modelled from the spec: `Cipher` of `cipher_state.rs`, a key `k`, a nonce and the AEAD
instance. -/
structure Cipher where
  k : Option Hash32
  n : UInt64
  cipher : Option Hash32
deriving DecidableEq

/-- Modelled from the spec: `Cipher::from_key_and_cipher`. -/
def Cipher.fromKeyAndCipher (k : Hash32) (c : Hash32) : Cipher :=
  ⟨some k, 0, some c⟩

/-- Modelled from the spec: `Cipher::erase_k` overwrites the key. -/
def Cipher.eraseK (self : Cipher) : Cipher :=
  { self with k := self.k.map Hash32.zeroed }

/-- Modelled from the spec: `GenericCipher`. -/
inductive GenericCipher
  | chaCha20Poly1305 (c : Cipher)
  | aes256Gcm (c : Cipher)
deriving DecidableEq

/-- Modelled from the spec: `GenericCipher::erase_k`. -/
def GenericCipher.eraseK : GenericCipher → GenericCipher
  | .chaCha20Poly1305 c => .chaCha20Poly1305 c.eraseK
  | .aes256Gcm c => .aes256Gcm c.eraseK

/-- The cipher inside a `GenericCipher`. -/
def GenericCipher.cipherState : GenericCipher → Cipher
  | .chaCha20Poly1305 c => c
  | .aes256Gcm c => c

/-- `NoiseCodec`: the ciphers of the two directions of the session. -/
structure NoiseCodec where
  encryptor : GenericCipher
  decryptor : GenericCipher
deriving DecidableEq

/-- `Responder`. -/
structure Responder where
  handshakeCipher : Option Hash32
  k : Option Hash32
  n : UInt64
  ck : Hash32
  h : Hash32
  e : Keypair
  s : Keypair
  a : Keypair
  c1 : Option GenericCipher
  c2 : Option GenericCipher
  certValidity : UInt32
deriving DecidableEq

namespace Responder

variable {Rng : Type} (P : NoisePrimitives Rng)

/-- Modelled from the spec: `mix_hash`, `h ← SHA256(h || data)`. -/
def mixHash (self : Responder) (data : List UInt8) : Responder :=
  { self with h := P.sha256 (self.h.bytes ++ data) }

/-- Modelled from the spec: `mix_key`; HKDF of the chaining key and `data` gives the next
chaining key and the key, which also keys the handshake cipher; the nonce is reset. -/
def mixKey (self : Responder) (data : List UInt8) : Responder :=
  let keys := P.hkdf2 self.ck data
  { self with ck := keys.1, k := some keys.2, n := 0, handshakeCipher := some keys.2 }

/-- Modelled from the spec: `encrypt_and_hash`; with a key, the buffer is encrypted under the
nonce `n` with `h` as associated data and the nonce advances; the buffer, as it is now, is
hashed into `h`. -/
def encryptAndHash (self : Responder) (buf : List UInt8) : List UInt8 × Responder :=
  match self.k with
  | some k =>
      let c := P.encrypt k self.n self.h.bytes buf
      (c, { self with n := self.n + 1 }.mixHash P c)
  | none => (buf, self.mixHash P buf)

/-- Modelled from the spec: `decrypt_and_hash`; with a key, the buffer is decrypted under the
nonce `n` with `h` as associated data, and a tag that does not verify fails the call before
anything changes; the buffer as received is hashed into `h`. -/
def decryptAndHash (self : Responder) (buf : List UInt8) :
    Except AeadError (List UInt8) × Responder :=
  match self.k with
  | some k =>
      match P.decrypt k self.n self.h.bytes buf with
      | none => (.error ⟨⟩, self)
      | some m => (.ok m, { self with n := self.n + 1 }.mixHash P buf)
  | none => (.ok buf, self.mixHash P buf)

/-- The protocol name of the spec, as bytes. -/
def protocolName : List UInt8 :=
  "Noise_NX_secp256k1_ChaChaPoly_SHA256".toList.map fun c => c.toNat.toUInt8

/-- Modelled from the spec: `initialize_self` sets `h` to the SHA-256 of the protocol name and
`ck` to `h`. -/
def initializeSelf (self : Responder) : Responder :=
  let h := P.sha256 protocolName
  { self with h, ck := h }

end Responder

end Noise

end StratumV2
