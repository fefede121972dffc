import StratumV2.Run

/-!
# Stratum V2: the channel's target and extranonce prefix

`new` and `update_channel` compute the target from the nominal hashrate and refuse one above
`requested_max_target`; `set_target` assigns the target as given.  `set_extranonce_prefix`
refuses a prefix longer than `MAX_EXTRANONCE_LEN`; `new` stores the prefix it is given, and
`on_new_template` copies the channel's prefix into every job it creates.

**Results.**
* `target_le_requestedMaxTarget`: along every run of calls other than `set_target`, from
  any channel built by `new`, the target stays within `requested_max_target`;
  `setTarget_exceeds_requestedMaxTarget` shows that `set_target` alone can break it.
* `new_accepts_long_extranoncePrefix`: `new` accepts a 33-byte prefix, which then reaches the
  coinbase of every job the channel creates.
* `target_of_nominalHashrate`: along every run without `set_target` and `set_nominal_hashrate`
  from a channel built by `new`, the target is the one `hash_rate_to_target` gives for the
  nominal hashrate and the expected share rate.
-/

namespace StratumV2

open StandardChannel

/-- One call other than `set_target` keeps the target within `requested_max_target`. -/
theorem run_target_le {P : Primitives} {s s' : StandardChannel} {op : ChannelOp}
    (hop : op.isSetTarget = false) (hs : s.target ≤ s.requestedMaxTarget)
    (h : op.run P s = some s') : s'.target ≤ s'.requestedMaxTarget := by
  rcases (ChannelOp.run_frame h).2.2 hop with ⟨ht, hm⟩ | hle
  · rw [ht, hm]; exact hs
  · exact hle

theorem target_le_requestedMaxTarget {P : Primitives} {channelId : UInt32}
    {extranoncePrefix : List UInt8} {requestedMaxTarget : Target} {hashrate : Float}
    {shareBatchSize : Nat} {expectedSharePerMinute : Float} {jobStore : JobStore}
    {s₀ s : StandardChannel} {ops : List ChannelOp}
    (hnew : new P channelId extranoncePrefix requestedMaxTarget hashrate shareBatchSize
      expectedSharePerMinute jobStore = .ok s₀)
    (hops : ∀ op ∈ ops, op.isSetTarget = false) (hrun : runOps P s₀ ops = some s) :
    s.target ≤ s.requestedMaxTarget :=
  runOps_invariant (fun _ _ _ hop hs h => run_target_le hop hs h) hops (new_eq_ok hnew).1 hrun

theorem target_le_requestedMaxTarget_updated :
    ∃ s₀ s,
      new .everyShareABlock 1 sampleExtranoncePrefix maxTarget 10.0 100 1.0 JobStore.empty =
        .ok s₀ ∧
      (∀ op ∈ [ChannelOp.updateChannel 100.0 (some (targetOf (2 ^ 220)))],
        op.isSetTarget = false) ∧
      runOps .everyShareABlock s₀ [.updateChannel 100.0 (some (targetOf (2 ^ 220)))] = some s ∧
      s.target ≤ s.requestedMaxTarget := by
  refine ⟨_, _, rfl, by decide, rfl, ?_⟩
  exact @target_le_requestedMaxTarget .everyShareABlock 1 sampleExtranoncePrefix maxTarget 10.0
    100 1.0 JobStore.empty _ _ [.updateChannel 100.0 (some (targetOf (2 ^ 220)))] rfl
    (by decide) rfl

/-- `set_target` can put the target above `requested_max_target`. -/
theorem setTarget_exceeds_requestedMaxTarget :
    ¬ ∀ (P : Primitives) (channelId : UInt32) (extranoncePrefix : List UInt8)
      (requestedMaxTarget : Target) (hashrate : Float) (shareBatchSize : Nat)
      (expectedSharePerMinute : Float) (jobStore : JobStore) (s₀ s : StandardChannel)
      (ops : List ChannelOp),
      new P channelId extranoncePrefix requestedMaxTarget hashrate shareBatchSize
        expectedSharePerMinute jobStore = .ok s₀ →
      runOps P s₀ ops = some s → s.target ≤ s.requestedMaxTarget := by
  intro h
  have := h .everyShareABlock 1 sampleExtranoncePrefix (targetOf (2 ^ 200)) 10.0 100 1.0
    JobStore.empty _ _ [.setTarget (targetOf (2 ^ 201))] (by rfl) (by rfl)
  revert this
  decide

/-- `new` takes a 33-byte extranonce prefix, and `on_new_template` puts it into a job. -/
theorem new_accepts_long_extranoncePrefix :
    ∃ s₀ s job,
      new .everyShareABlock 1 (sampleExtranoncePrefix ++ [2]) maxTarget 10.0 100 1.0
        JobStore.empty = .ok s₀ ∧
      s₀.extranoncePrefix.length = 33 ∧
      runOps .everyShareABlock s₀ [.onNewTemplate (sampleTemplate 1 true) sampleRewardOutputs] = some s ∧
      s.jobStore.futureJobs.lookup 1 = some job ∧ job.extranoncePrefix.length = 33 :=
  ⟨_, _, _, rfl, rfl, rfl, rfl, rfl⟩

/-! ## The target of the nominal hashrate -/

/-- The call is `set_target` or `set_nominal_hashrate`, which set the target or the hashrate
alone. -/
def ChannelOp.isUncheckedSetter : ChannelOp → Bool
  | .setTarget _ => true
  | .setNominalHashrate _ => true
  | _ => false

/-- The channel `new` builds has the target its nominal hashrate gives. -/
theorem new_hashRateToTarget {P : Primitives} {channelId : UInt32}
    {extranoncePrefix : List UInt8} {requestedMaxTarget : Target} {hashrate : Float}
    {shareBatchSize : Nat} {expectedSharePerMinute : Float} {jobStore : JobStore}
    {s : StandardChannel}
    (h : new P channelId extranoncePrefix requestedMaxTarget hashrate shareBatchSize
      expectedSharePerMinute jobStore = .ok s) :
    P.hashRateToTarget s.nominalHashrate s.expectedSharePerMinute = some s.target := by
  unfold new at h
  split at h
  · cases h
  · split_ifs at h
    cases h
    assumption

/-- Every call but the two unchecked setters keeps the target the one the nominal hashrate
gives. -/
theorem ChannelOp.run_hashRateToTarget {P : Primitives} {s s' : StandardChannel}
    {op : ChannelOp} (hop : op.isUncheckedSetter = false)
    (hs : P.hashRateToTarget s.nominalHashrate s.expectedSharePerMinute = some s.target)
    (h : op.run P s = some s') :
    P.hashRateToTarget s'.nominalHashrate s'.expectedSharePerMinute = some s'.target := by
  cases op with
  | onNewTemplate t o =>
      cases h
      obtain ⟨_, _, he⟩ := onNewTemplate_shape (P := P) (s := s) t o
      rw [he]; exact hs
  | onSetNewPrevHash m =>
      cases h
      obtain ⟨_, _, he⟩ := onSetNewPrevHash_shape (s := s) m
      rw [he]; exact hs
  | validateShare share =>
      obtain ⟨_, hv⟩ := ChannelOp.run_validateShare.mp h
      obtain ⟨_, rfl⟩ := validateShare_shape hv
      exact hs
  | updateChannel hashrate m =>
      cases h
      rcases updateChannel_cases (Prod.mk.eta (p := s.updateChannel P hashrate m)).symm with
        ⟨-, -, he⟩ | ⟨_, ht, -, -, he⟩ <;> rw [he]
      · exact hs
      · exact ht
  | setExtranoncePrefix p =>
      cases h
      obtain ⟨_, he⟩ := setExtranoncePrefix_shape (s := s) p
      rw [he]; exact hs
  | setTarget _ => cases hop
  | setNominalHashrate _ => cases hop

theorem target_of_nominalHashrate {P : Primitives} {channelId : UInt32}
    {extranoncePrefix : List UInt8} {requestedMaxTarget : Target} {hashrate : Float}
    {shareBatchSize : Nat} {expectedSharePerMinute : Float} {jobStore : JobStore}
    {s₀ s : StandardChannel} {ops : List ChannelOp}
    (hnew : new P channelId extranoncePrefix requestedMaxTarget hashrate shareBatchSize
      expectedSharePerMinute jobStore = .ok s₀)
    (hops : ∀ op ∈ ops, op.isUncheckedSetter = false) (hrun : runOps P s₀ ops = some s) :
    P.hashRateToTarget s.nominalHashrate s.expectedSharePerMinute = some s.target :=
  runOps_invariant (fun _ _ _ hop hs h => ChannelOp.run_hashRateToTarget hop hs h) hops
    (new_hashRateToTarget hnew) hrun

theorem target_of_nominalHashrate_updated :
    ∃ s₀ s,
      new .everyShareABlock 1 sampleExtranoncePrefix maxTarget 10.0 100 1.0 JobStore.empty =
        .ok s₀ ∧
      (∀ op ∈ [ChannelOp.updateChannel 100.0 (some (targetOf (2 ^ 220))),
          .onNewTemplate (sampleTemplate 1 true) sampleRewardOutputs], op.isUncheckedSetter = false) ∧
      runOps .everyShareABlock s₀ [.updateChannel 100.0 (some (targetOf (2 ^ 220))),
        .onNewTemplate (sampleTemplate 1 true) sampleRewardOutputs] = some s ∧
      Primitives.everyShareABlock.hashRateToTarget s.nominalHashrate s.expectedSharePerMinute =
        some s.target := by
  refine ⟨_, _, rfl, by decide, rfl, ?_⟩
  exact @target_of_nominalHashrate .everyShareABlock 1 sampleExtranoncePrefix maxTarget 10.0 100
    1.0 JobStore.empty _ _ [.updateChannel 100.0 (some (targetOf (2 ^ 220))),
      .onNewTemplate (sampleTemplate 1 true) sampleRewardOutputs] rfl (by decide) rfl

end StratumV2
