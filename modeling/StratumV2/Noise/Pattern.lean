import StratumV2.Noise.Erasure

/-!
# Stratum V2: the first step as the Noise NX pattern

The Noise framework describes a handshake by its message patterns; in NX the initiator sends
`-> e` and the responder answers `<- e, ee, s, es`.  Each token is an operation on the
handshake state: `e` appends the party's ephemeral key and hashes it, `s` appends its static key
encrypted, and `ee` and `es` mix the Diffie-Hellman of the named keys into the chaining key (for
the responder, `es` is its static key with the initiator's ephemeral one).  A message ends with
its payload, encrypted and hashed, and after the last message `Split` keys the two transport
ciphers by HKDF of the chaining key.  Stratum V2 encodes every public key with ElligatorSwift and
takes the Diffie-Hellman of the two encodings.

`writeMessage` interprets a message pattern token by token.  `step_1_with_now_rng` does the
same work written out by hand, and this module shows that it is exactly the pattern's.

**Results.**
* `stepOneWithNowRng_eq_pattern`: for every responder state, initiator key, time and RNG, the
  first step reads `-> e` (hashes the initiator's key and decrypts the empty payload) and, when
  that succeeds, writes `<- e, ee, s, es` with the signature noise message as payload, splits,
  erases the codec's copies of the keys and clears `c1` and `c2`.
* `stepOne_commits_to_transcript`: after the first step of a fresh responder, the handshake
  hash depends only on the protocol name and the bytes exchanged, and the chaining key only on
  the protocol name and the two shared secrets.
-/

namespace StratumV2

namespace Noise

/-- A token of a Noise message pattern that the responder of NX writes. -/
inductive Token
  | e
  | s
  | ee
  | es
deriving DecidableEq, Repr

namespace Responder

variable {Rng : Type} (P : NoisePrimitives Rng)

/-- The responder's processing of one token of a message it writes, given the initiator's
ephemeral key `re`: the bytes written so far and the handshake state. -/
def writeToken (re : Bytes64) : Token → List UInt8 × Responder → List UInt8 × Responder
  | .e, (buf, r) =>
      let pk := (P.ellswiftFromPubkey r.e.publicKey).bytes
      (buf ++ pk, r.mixHash P pk)
  | .s, (buf, r) =>
      let c := r.encryptAndHash P (P.ellswiftFromPubkey r.s.publicKey).bytes
      (buf ++ c.1, c.2)
  | .ee, (buf, r) =>
      let ecdh := P.sharedSecret re (P.ellswiftFromPubkey r.e.publicKey) r.e.secretKey
      (buf, r.mixKey P ecdh.bytes)
  | .es, (buf, r) =>
      let ecdh := P.sharedSecret re (P.ellswiftFromPubkey r.s.publicKey) r.s.secretKey
      (buf, r.mixKey P ecdh.bytes)

/-- Noise's `WriteMessage` for the responder: the tokens in order, then the payload encrypted
and hashed. -/
def writeMessage (re : Bytes64) (pattern : List Token) (payload : List UInt8) (r : Responder) :
    List UInt8 × Responder :=
  let tokens := pattern.foldl (fun acc t => writeToken P re t acc) ([], r)
  let c := tokens.2.encryptAndHash P payload
  (tokens.1 ++ c.1, c.2)

/-- Noise's `ReadMessage` of `-> e` by the responder: the initiator's ephemeral key is hashed,
and the payload decrypted and hashed. -/
def readMessageE (re : Bytes64) (payload : List UInt8) (r : Responder) :
    Except AeadError (List UInt8) × Responder :=
  (r.mixHash P re.bytes).decryptAndHash P payload

/-- Noise's `Split`: the ciphers keyed by the two outputs of HKDF of the chaining key and the
empty string. -/
def split (r : Responder) : Cipher × Cipher :=
  let tempK := P.hkdf2 r.ck []
  (Cipher.fromKeyAndCipher tempK.1 tempK.1, Cipher.fromKeyAndCipher tempK.2 tempK.2)

/-- The responder's side of NX: read `-> e` with an empty payload, write `<- e, ee, s, es` with
the signature noise message, split; the responder's codec encrypts with the second cipher and
decrypts with the first, and the copies of their keys are erased. -/
def nxPattern (r : Responder) (theirs : Bytes64) (now : UInt32) (rng : Rng) :
    (Except AeadError (List UInt8 × NoiseCodec) × Responder) × Rng :=
  match readMessageE P theirs [] r with
  | (.error e, r₁) => ((.error e, r₁), rng)
  | (.ok _, r₁) =>
      let payload := r₁.signatureNoiseMessage P now rng
      let msg := writeMessage P theirs [.e, .ee, .s, .es] payload.1 r₁
      let ciphers := split P msg.2
      ((.ok (msg.1, ⟨(GenericCipher.chaCha20Poly1305 ciphers.2).eraseK,
          (GenericCipher.chaCha20Poly1305 ciphers.1).eraseK⟩),
        { msg.2 with c1 := none, c2 := none }), payload.2)

theorem stepOneWithNowRng_eq_pattern (r : Responder) (theirs : Bytes64) (now : UInt32)
    (rng : Rng) : r.stepOneWithNowRng P theirs now rng = r.nxPattern P theirs now rng := by
  unfold stepOneWithNowRng nxPattern readMessageE
  dsimp only
  rcases hd : (r.mixHash P theirs.bytes).decryptAndHash P [] with ⟨_ | _, r₁⟩
  · rfl
  · simp only [writeMessage, List.foldl, writeToken, mixKey, encryptAndHash, mixHash]
    rfl

/-- After the first step of a responder built by `new_with_rng`, `h` is the hash chain, from the
digest of the protocol name, of exactly the bytes the two parties exchanged, and `ck` the HKDF
chain from that digest over the ephemeral and then the static shared secret. -/
theorem stepOne_commits_to_transcript (a : Keypair) (certValidity : UInt32) (rng₀ : Rng)
    (theirs : Bytes64) (now : UInt32) (rng : Rng) :
    let r := (newWithRng P a certValidity rng₀).1
    let ours := (P.ellswiftFromPubkey r.e.publicKey).bytes
    ∃ encryptedStatic encryptedSignature codec r' rng',
      r.stepOneWithNowRng P theirs now rng =
        ((.ok (ours ++ encryptedStatic ++ encryptedSignature, codec), r'), rng') ∧
      r'.h = transcriptHash P (P.sha256 protocolName)
        [theirs.bytes, [], ours, encryptedStatic, encryptedSignature] ∧
      r'.ck = (P.hkdf2 (P.hkdf2 (P.sha256 protocolName)
        (P.sharedSecret theirs (P.ellswiftFromPubkey r.e.publicKey) r.e.secretKey).bytes).1
          (P.sharedSecret theirs (P.ellswiftFromPubkey r.s.publicKey) r.s.secretKey).bytes).1 :=
  stepOneWithNowRng_transcript (P := P) newWithRng_k theirs now rng

end Responder

end Noise

end StratumV2
