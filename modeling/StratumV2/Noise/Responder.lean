import StratumV2.Noise.Handshake

/-!
# Stratum V2: the Noise NX responder

The responder's constructors `new_with_rng` and `from_authority_kp_with_rng`, the first step of
the handshake `step_1_with_now_rng` with `get_signature`, and `erase`, which `Drop` runs
(`noise-sv2/src/responder.rs`).

`step_1_with_now_rng` fails only when `decrypt_and_hash` of the empty payload fails, which needs
a key: from a responder without one, every call returns its reply and codec
(`stepOneWithNowRng_of_k_none`), and the three parts of its reply fill the 234-byte buffer
exactly (`stepOne_reply_fills_buffer`).
The handshake hash then chains the whole transcript, and the chaining key both shared secrets
(`stepOneWithNowRng_transcript`).  With a key whose tag check fails, the call fails once it has
hashed the initiator's key into `h`, before it draws from the RNG
(`stepOneWithNowRng_of_decrypt_none`).

`erase` zeroes `k` through a mutable reference, but its loops over `ck` and `h` take the arrays
by value (`for mut b in self.ck`): `[u8; 32]` is `Copy`, so they zero copies, and `ck` and `h`
keep their bytes (`erase_ck`, `erase_h`).
-/

namespace StratumV2

namespace Noise

/-- `noise_sv2::Error`, the errors of the responder's constructors. -/
inductive Error
  | invalidRawPublicKey
  | invalidRawPrivateKey
deriving DecidableEq

/-- `core::time::Duration`, of which the responder reads only the whole seconds; its
nanoseconds, which no modelled function reads, are left out. -/
structure Duration where
  secs : UInt64

/-- `Duration::as_secs`. -/
def Duration.asSecs (d : Duration) : UInt64 :=
  d.secs

/-- `VERSION`. -/
def version : UInt16 :=
  0

variable {Rng : Type} (P : NoisePrimitives Rng)

/-- `Keypair::from_secret_key`. -/
def Keypair.fromSecretKey (secret : Hash32) : Keypair :=
  ⟨secret, P.publicKey secret⟩

/-- `Keypair::non_secure_erase`. -/
def Keypair.nonSecureErase (_ : Keypair) : Keypair :=
  P.erasedKeypair

namespace Responder

/-- `Responder::new_with_rng`: the ephemeral and then the static keypair are drawn from `rng`,
and `initialize_self` sets up the handshake state. -/
def newWithRng (a : Keypair) (certValidity : UInt32) (rng : Rng) : Responder × Rng :=
  let e := P.generateKeyWithRng rng
  let s := P.generateKeyWithRng e.2
  let responder : Responder :=
    { handshakeCipher := none, k := none, n := 0, ck := Hash32.zero, h := Hash32.zero, e := e.1,
      s := s.1, a, c1 := none, c2 := none, certValidity }
  (responder.initializeSelf P, s.2)

/-- `Responder::from_authority_kp_with_rng`: the private key must be a valid secret key and the
public key its x-only public key; `cert_validity.as_secs() as u32` keeps the low 32 bits of the
whole seconds. -/
def fromAuthorityKpWithRng (publicKey privateKey : Hash32) (certValidity : Duration) (rng : Rng) :
    Except Error Responder × Rng :=
  if P.validSecretKey privateKey then
    let kp := Keypair.fromSecretKey P privateKey
    if publicKey = P.xOnlyPublicKey kp.publicKey then
      let responder := newWithRng P kp certValidity.asSecs.toUInt32 rng
      (.ok responder.1, responder.2)
    else (.error .invalidRawPublicKey, rng)
  else (.error .invalidRawPrivateKey, rng)

/-- `Responder::get_signature`: the version and the validity bounds as little-endian integers,
then the 64-byte signature that `sign_with_rng` writes after them. -/
def getSignature (self : Responder) (version : UInt16) (validFrom notValidAfter : UInt32)
    (rng : Rng) : List UInt8 × Rng :=
  let ret := leBytes 2 version.toNat ++ leBytes 4 validFrom.toNat ++ leBytes 4 notValidAfter.toNat
  let signature := P.signWithRng ret (P.xOnlyPublicKey self.s.publicKey) self.a rng
  (ret ++ signature.1.bytes, signature.2)

/-- Step 7 of `step_1_with_now_rng`: the signature noise message valid from `now` until
`now + self.cert_validity`, a `u32` sum that wraps (a debug build panics instead). -/
def signatureNoiseMessage (self : Responder) (now : UInt32) (rng : Rng) : List UInt8 × Rng :=
  let validFrom := now
  let notValidAfter := now + self.certValidity
  self.getSignature P version validFrom notValidAfter rng

/-- `Responder::step_1_with_now_rng`.  The reply is the responder's ephemeral ElligatorSwift
encoding, the encrypted static encoding and the encrypted signature noise message, of 64, 80 and
90 bytes, which fill the slices `copy_from_slice` writes; the session ciphers are keyed by HKDF of
the final chaining key, and the codec's copies of their keys are erased. -/
def stepOneWithNowRng (self : Responder) (theirs : Bytes64) (now : UInt32) (rng : Rng) :
    (Except AeadError (List UInt8 × NoiseCodec) × Responder) × Rng :=
  let self := self.mixHash P theirs.bytes
  match self.decryptAndHash P [] with
  | (.error e, self) => ((.error e, self), rng)
  | (.ok _, self) =>
      let keypair := self.e
      let oursEphemeral := P.ellswiftFromPubkey keypair.publicKey
      let self := self.mixHash P oursEphemeral.bytes
      let ecdhEphemeral := P.sharedSecret theirs oursEphemeral keypair.secretKey
      let self := self.mixKey P ecdhEphemeral.bytes
      let oursStatic := P.ellswiftFromPubkey self.s.publicKey
      let encryptedStaticPubK := self.encryptAndHash P oursStatic.bytes
      let self := encryptedStaticPubK.2
      let ecdhStatic := P.sharedSecret theirs oursStatic self.s.secretKey
      let self := self.mixKey P ecdhStatic.bytes
      let signatureNoiseMessage := self.signatureNoiseMessage P now rng
      let signaturePart := self.encryptAndHash P signatureNoiseMessage.1
      let self := signaturePart.2
      let tempK := P.hkdf2 self.ck []
      let c1 := Cipher.fromKeyAndCipher tempK.1 tempK.1
      let c2 := Cipher.fromKeyAndCipher tempK.2 tempK.2
      let toSend := oursEphemeral.bytes ++ encryptedStaticPubK.1 ++ signaturePart.1
      let self := { self with c1 := none, c2 := none }
      let encryptor := (GenericCipher.chaCha20Poly1305 c2).eraseK
      let decryptor := (GenericCipher.chaCha20Poly1305 c1).eraseK
      ((.ok (toSend, ⟨encryptor, decryptor⟩), self), signatureNoiseMessage.2)

/-- `Responder::erase`, which `Drop` runs.  `for b in k` zeroes the key through a mutable
reference.  `for mut b in self.ck` and `for mut b in self.h` iterate over copies of the arrays,
and `write_volatile(&mut b, 0)` writes to the loop variable: the zeroed copies are dropped. -/
def erase (self : Responder) : Responder :=
  let _ckCopy := self.ck.zeroed
  let _hCopy := self.h.zeroed
  { self with
    k := self.k.map Hash32.zeroed
    c1 := self.c1.map GenericCipher.eraseK
    c2 := self.c2.map GenericCipher.eraseK
    e := self.e.nonSecureErase P
    s := self.s.nonSecureErase P
    a := self.a.nonSecureErase P }

variable {P}

section New

variable {a : Keypair} {certValidity : UInt32} {rng : Rng}

@[simp] theorem newWithRng_k : (newWithRng P a certValidity rng).1.k = none := rfl

@[simp] theorem newWithRng_ck : (newWithRng P a certValidity rng).1.ck = P.sha256 protocolName :=
  rfl

@[simp] theorem newWithRng_h : (newWithRng P a certValidity rng).1.h = P.sha256 protocolName :=
  rfl

@[simp] theorem newWithRng_certValidity :
    (newWithRng P a certValidity rng).1.certValidity = certValidity := rfl

/-- `from_authority_kp_with_rng` builds the responder `new_with_rng` builds for the authority
keypair and the low 32 bits of the whole seconds of the validity. -/
theorem fromAuthorityKpWithRng_eq_ok {publicKey privateKey : Hash32} {d : Duration}
    {r : Responder} {rng' : Rng}
    (h : fromAuthorityKpWithRng P publicKey privateKey d rng = (.ok r, rng')) :
    (r, rng') = newWithRng P (Keypair.fromSecretKey P privateKey) d.asSecs.toUInt32 rng := by
  unfold fromAuthorityKpWithRng at h
  dsimp only at h
  split_ifs at h <;> cases h
  rfl

end New

/-- From a responder without a key, the first step returns the reply and the codec: the reply
starts with the ephemeral encoding and ends with the encrypted signature noise message, and the
codec's ciphers are keyed by HKDF of the chaining key the responder keeps. -/
theorem stepOneWithNowRng_of_k_none {r : Responder} (hk : r.k = none) (theirs : Bytes64)
    (now : UInt32) (rng : Rng) :
    ∃ encryptedStatic k n ad ck r',
      r.stepOneWithNowRng P theirs now rng =
        ((.ok ((P.ellswiftFromPubkey r.e.publicKey).bytes ++ encryptedStatic ++
            P.encrypt k n ad (r.signatureNoiseMessage P now rng).1,
          ⟨(GenericCipher.chaCha20Poly1305 (.fromKeyAndCipher (P.hkdf2 ck []).2
              (P.hkdf2 ck []).2)).eraseK,
            (GenericCipher.chaCha20Poly1305 (.fromKeyAndCipher (P.hkdf2 ck []).1
              (P.hkdf2 ck []).1)).eraseK⟩), r'),
          (r.signatureNoiseMessage P now rng).2) ∧
      encryptedStatic.length = 80 ∧ r'.ck = ck ∧ r'.k = some k ∧ r'.c1 = none ∧ r'.c2 = none := by
  simp only [stepOneWithNowRng, decryptAndHash, mixHash, mixKey, encryptAndHash, hk,
    signatureNoiseMessage, getSignature]
  exact ⟨_, _, _, _, _, _, rfl, by rw [P.length_encrypt, Bytes64.length_eq], rfl, rfl, rfl, rfl⟩

/-- The hash chain of a transcript: `h` after `mix_hash` of each message in turn. -/
def transcriptHash (P : NoisePrimitives Rng) (h : Hash32) (msgs : List (List UInt8)) : Hash32 :=
  msgs.foldl (fun h m => P.sha256 (h.bytes ++ m)) h

/-- What the first step does to the handshake state: `h` chains the initiator's key, the empty
payload and the three parts of the reply, and the chaining key absorbs the ephemeral and then the
static shared secret. -/
theorem stepOneWithNowRng_transcript {r : Responder} (hk : r.k = none) (theirs : Bytes64)
    (now : UInt32) (rng : Rng) :
    let ours := (P.ellswiftFromPubkey r.e.publicKey).bytes
    ∃ encryptedStatic encryptedSignature codec r' rng',
      r.stepOneWithNowRng P theirs now rng =
        ((.ok (ours ++ encryptedStatic ++ encryptedSignature, codec), r'), rng') ∧
      r'.h = transcriptHash P r.h [theirs.bytes, [], ours, encryptedStatic, encryptedSignature] ∧
      r'.ck = (P.hkdf2 (P.hkdf2 r.ck (P.sharedSecret theirs (P.ellswiftFromPubkey r.e.publicKey)
        r.e.secretKey).bytes).1 (P.sharedSecret theirs (P.ellswiftFromPubkey r.s.publicKey)
          r.s.secretKey).bytes).1 := by
  simp only [stepOneWithNowRng, decryptAndHash, mixHash, mixKey, encryptAndHash, hk]
  exact ⟨_, _, _, _, _, rfl, rfl, rfl⟩

/-- With a key, the step first decrypts the empty payload; when its tag does not verify, the step
fails before it draws from the RNG, and the responder has only hashed the initiator's key. -/
theorem stepOneWithNowRng_of_decrypt_none {r : Responder} {k : Hash32} (hk : r.k = some k)
    {theirs : Bytes64}
    (hdec : P.decrypt k r.n (P.sha256 (r.h.bytes ++ theirs.bytes)).bytes [] = none)
    (now : UInt32) (rng : Rng) :
    r.stepOneWithNowRng P theirs now rng = ((.error ⟨⟩, r.mixHash P theirs.bytes), rng) := by
  simp only [stepOneWithNowRng, decryptAndHash, mixHash, hk, hdec]

section Erase

variable {r : Responder}

@[simp] theorem erase_ck : (r.erase P).ck = r.ck := rfl

@[simp] theorem erase_h : (r.erase P).h = r.h := rfl

@[simp] theorem erase_k : (r.erase P).k = r.k.map Hash32.zeroed := rfl

@[simp] theorem erase_c1 : (r.erase P).c1 = r.c1.map GenericCipher.eraseK := rfl

@[simp] theorem erase_c2 : (r.erase P).c2 = r.c2.map GenericCipher.eraseK := rfl

@[simp] theorem erase_e : (r.erase P).e = P.erasedKeypair := rfl

@[simp] theorem erase_s : (r.erase P).s = P.erasedKeypair := rfl

@[simp] theorem erase_a : (r.erase P).a = P.erasedKeypair := rfl

end Erase

end Responder

/-! Concrete inputs. -/

/-- The 32-byte value of ones. -/
def sampleKey : Hash32 :=
  ⟨List.replicate 32 1, rfl⟩

/-- Primitives with constant outputs: SHA-256 and both HKDF outputs are `sampleKey`, the AEAD
appends a zero tag to the plaintext, encodings and signatures are zero bytes, and every drawn
keypair has the secret key `sampleKey`; the generator is a counter. -/
def NoisePrimitives.sample : NoisePrimitives Nat where
  sha256 := fun _ => sampleKey
  hkdf2 := fun _ _ => (sampleKey, sampleKey)
  encrypt := fun _ _ _ m => m ++ List.replicate 16 0
  length_encrypt := fun _ _ _ m => by simp
  decrypt := fun _ _ _ c => some (c.take (c.length - 16))
  validSecretKey := fun _ => true
  publicKey := fun k => k.bytes
  xOnlyPublicKey := fun _ => sampleKey
  ellswiftFromPubkey := fun _ => ⟨List.replicate 64 0, rfl⟩
  sharedSecret := fun _ _ k => k
  generateKeyWithRng := fun n => (⟨sampleKey, sampleKey.bytes⟩, n + 1)
  signWithRng := fun _ _ _ n => (⟨List.replicate 64 0, rfl⟩, n)
  erasedKeypair := ⟨Hash32.zero, []⟩

/-- The concrete primitives with a decryption that, as ChaCha20-Poly1305's does, rejects every
ciphertext shorter than its 16-byte tag. -/
def NoisePrimitives.sampleAead : NoisePrimitives Nat :=
  { NoisePrimitives.sample with
    decrypt := fun _ _ _ c => if c.length < 16 then none else some (c.take (c.length - 16)) }

/-- The authority keypair of the concrete responders. -/
def sampleAuthority : Keypair :=
  ⟨sampleKey, sampleKey.bytes⟩

/-- An initiator's ephemeral ElligatorSwift encoding. -/
def sampleEllSwift : Bytes64 :=
  ⟨List.replicate 64 2, rfl⟩

end Noise

end StratumV2
