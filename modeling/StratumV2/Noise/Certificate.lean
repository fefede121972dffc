import StratumV2.Noise.Erasure

/-!
# Stratum V2: the validity of the responder's certificate

The signature noise message that the first step encrypts into the last 90 bytes of its reply
begins with the version and the validity bounds as little-endian integers.  `valid_from` is
`now`, and `not_valid_after` is the `u32` sum `now + cert_validity`, which wraps past
`u32::MAX` (a debug build panics instead).  The validity is the `u32` given to `new_with_rng`,
or the whole seconds of the `Duration` given to `from_authority_kp_with_rng` cast to `u32`,
which keeps their low 32 bits.  So the certificate starts before it expires exactly when the sum
does not wrap.

**Results.**
* `certificate_validity`: the first 10 bytes of the message for every `now` and every validity,
  and the validity each constructor stores.
* `certificate_expires_before_it_starts`: a certificate meant never to expire, of validity
  `u32::MAX`, issued at `now = 1700000000` expires at `1699999999`, a second before it starts;
  and a `Duration` of `2 ^ 32 + 5` seconds builds the responder of a 5-second one.
-/

namespace StratumV2

namespace Noise

namespace Responder

variable {Rng : Type} {P : NoisePrimitives Rng}

/-- The message begins with the version `0`, `now`, and `now + cert_validity` modulo `2 ^ 32`,
each little-endian. -/
theorem take_signatureNoiseMessage (r : Responder) (now : UInt32) (rng : Rng) :
    (r.signatureNoiseMessage P now rng).1.take 10 =
      leBytes 2 0 ++ leBytes 4 now.toNat ++
        leBytes 4 ((now.toNat + r.certValidity.toNat) % 2 ^ 32) := by
  unfold signatureNoiseMessage getSignature
  exact List.take_left' (by simp)

theorem certificate_validity (P : NoisePrimitives Rng) :
    (∀ a certValidity rng₀ theirs now rng,
      let r := (newWithRng P a certValidity rng₀).1
      ∃ out codec r' rng' k n ad,
        r.stepOneWithNowRng P theirs now rng = ((.ok (out, codec), r'), rng') ∧
        out.drop 144 = P.encrypt k n ad (r.signatureNoiseMessage P now rng).1 ∧
        (r.signatureNoiseMessage P now rng).1.take 10 =
          leBytes 2 0 ++ leBytes 4 now.toNat ++
            leBytes 4 ((now.toNat + certValidity.toNat) % 2 ^ 32) ∧
        (now.toNat ≤ (now.toNat + certValidity.toNat) % 2 ^ 32 ↔
          now.toNat + certValidity.toNat < 2 ^ 32)) ∧
    (∀ publicKey privateKey (d : Duration) rng₀ r rng₁,
      fromAuthorityKpWithRng P publicKey privateKey d rng₀ = (.ok r, rng₁) →
      ∃ a, r = (newWithRng P a d.asSecs.toUInt32 rng₀).1 ∧
        d.asSecs.toUInt32.toNat = d.asSecs.toNat % 2 ^ 32) := by
  refine ⟨fun a certValidity rng₀ theirs now rng => ?_, fun _ _ d _ _ _ h => ?_⟩
  · obtain ⟨encryptedStatic, k, n, ad, _, r', h, hlen, -⟩ :=
      stepOneWithNowRng_of_k_none
        (newWithRng_k : (newWithRng P a certValidity rng₀).1.k = none) theirs now rng
    have hdrop : ((P.ellswiftFromPubkey (newWithRng P a certValidity rng₀).1.e.publicKey).bytes ++
        encryptedStatic).length = 144 := by
      rw [List.length_append, Bytes64.length_eq, hlen]
    refine ⟨_, _, r', _, k, n, ad, h, List.drop_left' hdrop, take_signatureNoiseMessage _ _ _, ?_⟩
    have hnow : now.toNat < 2 ^ 32 := now.toNat_lt_size
    have hvalidity : certValidity.toNat < 2 ^ 32 := certValidity.toNat_lt_size
    constructor <;> intro <;> omega
  · exact ⟨_, congrArg Prod.fst (fromAuthorityKpWithRng_eq_ok h), rfl⟩

/-- At a validity of `u32::MAX` seconds, the sum wraps: a certificate issued at
`now = 1700000000` is not valid after `1699999999`.  And `as u32` cuts a `Duration` of
`2 ^ 32 + 5 = 4294967301` seconds to 5 seconds. -/
theorem certificate_expires_before_it_starts (P : NoisePrimitives Rng) (a : Keypair) (rng₀ : Rng)
    (theirs : Bytes64) (rng : Rng) (publicKey privateKey : Hash32) :
    (let r := (newWithRng P a 0xffffffff rng₀).1
      ∃ out codec r' rng' k n ad,
        r.stepOneWithNowRng P theirs 1700000000 rng = ((.ok (out, codec), r'), rng') ∧
        out.drop 144 = P.encrypt k n ad (r.signatureNoiseMessage P 1700000000 rng).1 ∧
        (r.signatureNoiseMessage P 1700000000 rng).1.take 10 =
          leBytes 2 0 ++ leBytes 4 1700000000 ++ leBytes 4 1699999999) ∧
    fromAuthorityKpWithRng P publicKey privateKey ⟨4294967301⟩ rng₀ =
      fromAuthorityKpWithRng P publicKey privateKey ⟨5⟩ rng₀ := by
  refine ⟨?_, rfl⟩
  obtain ⟨out, codec, r', rng', k, n, ad, h, hdrop, htake, -⟩ :=
    (certificate_validity P).1 a 0xffffffff rng₀ theirs 1700000000 rng
  exact ⟨out, codec, r', rng', k, n, ad, h, hdrop, htake⟩

end Responder

end Noise

end StratumV2
