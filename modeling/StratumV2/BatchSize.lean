import StratumV2.Credit

/-!
# Stratum V2: the share batch size

`new` hands `share_batch_size` to `ShareAccounting::new` unchecked, and no call changes it.
`should_acknowledge` takes `shares_accepted % share_batch_size` after every credit on the
channel target, so on a channel built with batch size zero the first such share panics.  The
job lookups of `validate_share` cannot fail once its two guards have passed, so this remainder
is its only panic.

**Results.**
* `validateShare_eq_none_iff`: `validate_share` panics exactly when the batch size is zero and
  the share passes every check of the procedure up to the credit on the channel target.
* `runOps_isSome_of_new`: from a channel built by `new` with a positive batch size, no run of
  calls panics.
* `zero_batch_share_panics`: a channel built by `new` with batch size zero, whose first valid
  share panics.
-/

namespace StratumV2

open StandardChannel

section Panic

variable {P : Primitives} {s : StandardChannel} {share : SubmitSharesStandard}

theorem checkShare_eq_none_iff {job : StandardJob} {tip : ChainTip} :
    s.checkShare P share job tip = none ↔
      let hash := (shareHeader share tip job).blockHash P.sha256d
      s.shareAccounting.shareBatchSize = 0 ∧ ¬ hash.toTarget ≤ P.fromCompact tip.nbits ∧
        hash.toTarget ≤ s.target ∧ hash ∉ s.shareAccounting.seenShares := by
  unfold checkShare
  dsimp only
  split_ifs with hnet htarget hseen
  · simp [hnet]
  · simp [(ShareAccounting.isShareSeen_iff _ _).mp hseen]
  · rw [ShareAccounting.isShareSeen_iff] at hseen
    rw [ShareAccounting.shouldAcknowledge_updateBestDiff]
    cases hack : (s.shareAccounting.updateShareAccounting _ share.sequenceNumber
      _).shouldAcknowledge with
    | none =>
        simpa [hnet, htarget, hseen] using ShareAccounting.shouldAcknowledge_eq_none_iff.mp hack
    | some b =>
        have hpos := (ShareAccounting.shouldAcknowledge_eq_some_iff.mp hack).1
        rw [ShareAccounting.shareBatchSize_update] at hpos
        cases b <;> simp [hpos.ne']
  · simp [htarget]

/-- A panic of `validate_share` is a panic of `checkShare` past the guards. -/
theorem validateShare_eq_none (h : s.validateShare P share = none) :
    ∃ job tip, share.jobId ∉ s.jobStore.staleJobs ∧
      resolveJob s.jobStore share.jobId = some job ∧ s.chainTip = some tip ∧
      s.checkShare P share job tip = none := by
  unfold validateShare at h
  dsimp only at h
  split_ifs at h with hstale hinvalid
  simp only [decide_eq_true_eq] at hstale
  split at h
  · rename_i hnone
    have := @resolveJob_isSome s.jobStore share.jobId
      (by cases ha : s.jobStore.activeJob.any (·.jobId == share.jobId) <;> simp_all)
    simp [hnone] at this
  · split at h
    · cases h
    · exact ⟨_, _, hstale, ‹_›, ‹_›, h⟩

theorem validateShare_eq_none_iff :
    s.validateShare P share = none ↔
      s.shareAccounting.shareBatchSize = 0 ∧
      ∃ job tip, share.jobId ∉ s.jobStore.staleJobs ∧
        resolveJob s.jobStore share.jobId = some job ∧ s.chainTip = some tip ∧
        let hash := (shareHeader share tip job).blockHash P.sha256d
        ¬ hash.toTarget ≤ P.fromCompact tip.nbits ∧ hash.toTarget ≤ s.target ∧
          hash ∉ s.shareAccounting.seenShares := by
  constructor
  · intro h
    obtain ⟨job, tip, hstale, hjob, htip, h⟩ := validateShare_eq_none h
    obtain ⟨hb, hrest⟩ := checkShare_eq_none_iff.mp h
    exact ⟨hb, job, tip, hstale, hjob, htip, hrest⟩
  · rintro ⟨hb, job, tip, hstale, hjob, htip, hrest⟩
    rw [validateShare_of_checks hstale hjob htip]
    exact checkShare_eq_none_iff.mpr ⟨hb, hrest⟩

end Panic

section Runs

variable {P : Primitives} {s s' : StandardChannel}

/-- No call changes the batch size. -/
theorem ChannelOp.run_shareBatchSize {op : ChannelOp} (h : op.run P s = some s') :
    s'.shareAccounting.shareBatchSize = s.shareAccounting.shareBatchSize := by
  rcases (ChannelOp.run_frame h).2.1 with he | ⟨_, _, hv⟩
  · rw [he]
  · rcases validateShare_cases hv with ⟨rfl, -⟩ | ⟨_, _, -, -, -, hcredit⟩
    · rfl
    · dsimp only at hcredit
      rcases hcredit with ⟨-, -, rfl⟩ | ⟨-, -, -, -, -, rfl, -⟩ <;> rfl

/-- With a positive batch size no call panics. -/
theorem ChannelOp.run_isSome {op : ChannelOp} (hbatch : 0 < s.shareAccounting.shareBatchSize) :
    (op.run P s).isSome := by
  cases op with
  | validateShare share =>
      cases hv : s.validateShare P share with
      | none => exact absurd (validateShare_eq_none_iff.mp hv).1 hbatch.ne'
      | some _ => simp [ChannelOp.run, hv]
  | _ => rfl

theorem runOps_isSome {ops : List ChannelOp} (hbatch : 0 < s.shareAccounting.shareBatchSize) :
    (runOps P s ops).isSome := by
  induction ops generalizing s with
  | nil => rfl
  | cons op ops ih =>
      obtain ⟨s₁, h₁⟩ :=
        Option.isSome_iff_exists.mp (ChannelOp.run_isSome hbatch : (op.run P s).isSome)
      show ((op.run P s).bind fun s' => runOps P s' ops).isSome
      rw [h₁, Option.some_bind]
      exact ih (ChannelOp.run_shareBatchSize h₁ ▸ hbatch)

theorem runOps_isSome_of_new {channelId : UInt32} {extranoncePrefix : List UInt8}
    {requestedMaxTarget : Target} {hashrate : Float} {shareBatchSize : Nat}
    {expectedSharePerMinute : Float} {jobStore : JobStore} {ops : List ChannelOp}
    (hnew : new P channelId extranoncePrefix requestedMaxTarget hashrate shareBatchSize
      expectedSharePerMinute jobStore = .ok s)
    (hbatch : 0 < shareBatchSize) : (runOps P s ops).isSome :=
  runOps_isSome (by rw [(new_eq_ok hnew).2.2.2.2.2.2]; exact hbatch)

end Runs

/-- `new` accepts batch size zero, and the first share credited on the channel target
panics. -/
theorem zero_batch_share_panics :
    ∃ s₀ s,
      new .noShareABlock 1 sampleExtranoncePrefix maxTarget 10.0 0 1.0 JobStore.empty =
        .ok s₀ ∧
      runOps .noShareABlock s₀ activatedJobRun = some s ∧
      s.validateShare .noShareABlock sampleShare = none :=
  ⟨_, _, rfl, rfl, rfl⟩

end StratumV2
