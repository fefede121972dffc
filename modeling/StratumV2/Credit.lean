import StratumV2.Run

/-!
# Stratum V2: credits to share accounting

Only `validate_share` changes the share accounting, and each call either changes nothing or
applies one credit: the header hash joins `seen_shares`, `shares_accepted` grows by one and
`share_work_sum` by the channel's share work.  The duplicate check guards only the branch of
shares that meet the channel target: a share that meets the network target is credited however
often it is submitted, and the block-found branch never asks `should_acknowledge`.

**Results.**
* `validateShare_credit`: every call leaves the accounting as it was or credits the share's
  hash once, and credits a hash seen before only with a `BlockFound` verdict.
* `shareAccounting_credits_hash_once`: along every run `seen_shares` only grows, and every
  call credits as `validateShare_credit` says; a share past the guards whose hash meets only the
  channel target and was seen before is a `DuplicateShare` that changes nothing, and one whose
  hash meets the network target is credited on every submission.
* `duplicate_block_share_credited_twice`: a block submitted twice is credited twice.
* `validateShare_acknowledgement`: with a positive batch size, every call satisfies
  `AcknowledgesBatches`: each verdict's effect on the accounting, a found block never
  acknowledged, and a fresh hash that meets only the channel target answered
  `ValidWithAcknowledgement`, with the accounting after the credit, exactly when its credit
  ends a batch; `block_share_ends_batch_unacknowledged` shows a found block ending a batch of
  one without an acknowledgement.
* `shareAccounting_counts_credits`: along every run from a channel built by `new`,
  `shares_accepted` is the number of `validate_share` calls answered with `Ok`, modulo `2 ^ 64`,
  and `share_work_sum` the wrapping sum of the share work each of them was credited with
  (`creditedWork`).
-/

namespace StratumV2

open StandardChannel

section Credit

variable {P : Primitives} {s s' : StandardChannel} {share : SubmitSharesStandard}
  {r : Except ShareValidationError ShareValidationResult}

theorem validateShare_credit (h : s.validateShare P share = some (r, s')) :
    s'.shareAccounting = s.shareAccounting ∨
    ∃ job tip, resolveJob s.jobStore share.jobId = some job ∧ s.chainTip = some tip ∧
      let hash := (shareHeader share tip job).blockHash P.sha256d
      s'.shareAccounting.seenShares = insert hash s.shareAccounting.seenShares ∧
      s'.shareAccounting.sharesAccepted = s.shareAccounting.sharesAccepted + 1 ∧
      s'.shareAccounting.shareWorkSum =
        s.shareAccounting.shareWorkSum + (P.targetToDifficulty s.target).toUInt64 ∧
      (hash ∈ s.shareAccounting.seenShares → ∃ tid cb, r = .ok (.blockFound tid cb)) := by
  rcases validateShare_cases h with ⟨rfl, -⟩ | ⟨job, tip, -, hjob, htip, hcredit⟩
  · exact .inl rfl
  · refine .inr ⟨job, tip, hjob, htip, ?_⟩
    dsimp only at hcredit ⊢
    rcases hcredit with ⟨-, hr, rfl⟩ | ⟨-, -, hseen, b, -, rfl, -⟩
    · exact ⟨rfl, rfl, rfl, fun _ => ⟨_, _, hr⟩⟩
    · exact ⟨rfl, rfl, rfl, fun h => absurd h hseen⟩

theorem ChannelOp.run_seenShares {op : ChannelOp} (h : op.run P s = some s') :
    s.shareAccounting.seenShares ⊆ s'.shareAccounting.seenShares := by
  rcases (ChannelOp.run_frame h).2.1 with he | ⟨_, _, hv⟩
  · rw [he]
  · rcases validateShare_credit hv with he | ⟨_, _, -, -, hseen, -⟩
    · rw [he]
    · rw [hseen]; exact Finset.subset_insert _ _

theorem runOps_seenShares {ops : List ChannelOp} (h : runOps P s ops = some s') :
    s.shareAccounting.seenShares ⊆ s'.shareAccounting.seenShares :=
  runOps_invariant_of_step
    (I := fun s' => s.shareAccounting.seenShares ⊆ s'.shareAccounting.seenShares)
    (fun _ _ _ hs h => hs.trans (ChannelOp.run_seenShares h)) subset_rfl h

end Credit

theorem shareAccounting_credits_hash_once (P : Primitives) :
    (∀ (s s' : StandardChannel) ops, runOps P s ops = some s' →
      s.shareAccounting.seenShares ⊆ s'.shareAccounting.seenShares) ∧
    (∀ (s s' : StandardChannel) share r, s.validateShare P share = some (r, s') →
      s'.shareAccounting = s.shareAccounting ∨
      ∃ job tip, resolveJob s.jobStore share.jobId = some job ∧ s.chainTip = some tip ∧
        let hash := (shareHeader share tip job).blockHash P.sha256d
        s'.shareAccounting.seenShares = insert hash s.shareAccounting.seenShares ∧
        s'.shareAccounting.sharesAccepted = s.shareAccounting.sharesAccepted + 1 ∧
        s'.shareAccounting.shareWorkSum =
          s.shareAccounting.shareWorkSum + (P.targetToDifficulty s.target).toUInt64 ∧
        (hash ∈ s.shareAccounting.seenShares → ∃ tid cb, r = .ok (.blockFound tid cb))) ∧
    (∀ (s : StandardChannel) share job tip, share.jobId ∉ s.jobStore.staleJobs →
      resolveJob s.jobStore share.jobId = some job → s.chainTip = some tip →
      ¬ (shareHash P share tip job).toTarget ≤ P.fromCompact tip.nbits →
      (shareHash P share tip job).toTarget ≤ s.target →
      shareHash P share tip job ∈ s.shareAccounting.seenShares →
      s.validateShare P share = some (.error .duplicateShare, s)) ∧
    (∀ (s : StandardChannel) share job tip, share.jobId ∉ s.jobStore.staleJobs →
      resolveJob s.jobStore share.jobId = some job → s.chainTip = some tip →
      (shareHash P share tip job).toTarget ≤ P.fromCompact tip.nbits →
      s.validateShare P share =
        some (.ok (.blockFound (some job.template.templateId) job.blockCoinbase.consensusEncode),
          { s with
            shareAccounting := s.shareAccounting.updateShareAccounting
              (P.targetToDifficulty s.target).toUInt64 share.sequenceNumber
              (shareHash P share tip job) })) :=
  ⟨fun _ _ _ => runOps_seenShares, fun _ _ _ _ => validateShare_credit,
    fun _ _ _ _ => validateShare_of_duplicate, fun _ _ _ _ => validateShare_of_block⟩

/-- A share credited on the channel target and submitted again is a duplicate. -/
theorem shareAccounting_credits_hash_once_of_resubmitted_share :
    ∃ s₀ s,
      new .noShareABlock 1 sampleExtranoncePrefix maxTarget 10.0 100 1.0 JobStore.empty =
        .ok s₀ ∧
      runOps .noShareABlock s₀ (activatedJobRun ++ [.validateShare sampleShare]) = some s ∧
      s.validateShare .noShareABlock sampleShare = some (.error .duplicateShare, s) :=
  ⟨_, _, rfl, rfl,
    (shareAccounting_credits_hash_once .noShareABlock).2.2.1 _ sampleShare _ _ (by decide) rfl rfl
      (by decide) (by decide) (by decide)⟩

/-- A found block submitted twice is credited twice. -/
theorem duplicate_block_share_credited_twice :
    ∃ s₀ s,
      new .everyShareABlock 1 sampleExtranoncePrefix maxTarget 10.0 100 1.0 JobStore.empty =
        .ok s₀ ∧
      runOps .everyShareABlock s₀
        (activatedJobRun ++ [.validateShare sampleShare, .validateShare sampleShare]) = some s ∧
      s.shareAccounting.sharesAccepted = 2 ∧ s.shareAccounting.seenShares.card = 1 :=
  ⟨_, _, rfl, rfl, rfl, rfl⟩

/-- What each verdict of one call of `validate_share` on `s`, answered `r` with the channel `s'`,
does to the accounting: a rejection changes nothing; a found block is credited; a share credited
on the channel target is acknowledged exactly when its credit ends a batch, with the accounting
after the credit. -/
structure VerdictCredits (s : StandardChannel) (share : SubmitSharesStandard)
    (r : Except ShareValidationError ShareValidationResult) (s' : StandardChannel) : Prop where
  error : ∀ e, r = .error e → s' = s
  blockFound : ∀ tid cb, r = .ok (.blockFound tid cb) →
    s'.shareAccounting.sharesAccepted = s.shareAccounting.sharesAccepted + 1
  valid : r = .ok .valid →
    s'.shareAccounting.sharesAccepted = s.shareAccounting.sharesAccepted + 1 ∧
      ¬ (s'.shareAccounting.sharesAccepted.toNat % s.shareAccounting.shareBatchSize = 0 ∧
        0 < s'.shareAccounting.sharesAccepted)
  validWithAcknowledgement : ∀ n accepted work,
    r = .ok (.validWithAcknowledgement n accepted work) →
    s'.shareAccounting.sharesAccepted = s.shareAccounting.sharesAccepted + 1 ∧
      s'.shareAccounting.sharesAccepted.toNat % s.shareAccounting.shareBatchSize = 0 ∧
      0 < s'.shareAccounting.sharesAccepted ∧ n = share.sequenceNumber ∧
      accepted = s'.shareAccounting.sharesAccepted ∧ work = s'.shareAccounting.shareWorkSum

/-- The verdicts of `VerdictCredits`, and which of them the share's hash selects past the
guards: a hash that meets the network target is a found block, never acknowledged, and a fresh
hash that meets only the channel target is `ValidWithAcknowledgement` exactly when its credit
ends a batch, and `Valid` otherwise. -/
structure AcknowledgesBatches (P : Primitives) (s : StandardChannel)
    (share : SubmitSharesStandard) (r : Except ShareValidationError ShareValidationResult)
    (s' : StandardChannel) extends VerdictCredits s share r s' : Prop where
  ofNetworkTarget : ∀ job tip, share.jobId ∉ s.jobStore.staleJobs →
    resolveJob s.jobStore share.jobId = some job → s.chainTip = some tip →
    (shareHash P share tip job).toTarget ≤ P.fromCompact tip.nbits →
    ∃ tid cb, r = .ok (.blockFound tid cb)
  ofChannelTarget : ∀ job tip, share.jobId ∉ s.jobStore.staleJobs →
    resolveJob s.jobStore share.jobId = some job → s.chainTip = some tip →
    ¬ (shareHash P share tip job).toTarget ≤ P.fromCompact tip.nbits →
    (shareHash P share tip job).toTarget ≤ s.target →
    shareHash P share tip job ∉ s.shareAccounting.seenShares →
    r = if s'.shareAccounting.sharesAccepted.toNat % s.shareAccounting.shareBatchSize = 0 ∧
          0 < s'.shareAccounting.sharesAccepted then
        .ok (.validWithAcknowledgement share.sequenceNumber s'.shareAccounting.sharesAccepted
          s'.shareAccounting.shareWorkSum)
      else .ok .valid

section Acknowledgement

variable {P : Primitives} {s s' : StandardChannel} {share : SubmitSharesStandard}
  {r : Except ShareValidationError ShareValidationResult}

theorem validateShare_verdictCredits (h : s.validateShare P share = some (r, s')) :
    VerdictCredits s share r s' := by
  rcases validateShare_cases h with ⟨rfl, e, rfl⟩ | ⟨job, tip, -, -, -, hcredit⟩
  · exact ⟨fun _ _ => rfl, fun _ _ h => (nomatch h), fun h => (nomatch h),
      fun _ _ _ h => (nomatch h)⟩
  · dsimp only at hcredit
    rcases hcredit with ⟨-, rfl, rfl⟩ | ⟨-, -, -, b, hack, rfl, rfl⟩
    · exact ⟨fun _ h => (nomatch h), fun _ _ _ => rfl, fun h => (nomatch h),
        fun _ _ _ h => (nomatch h)⟩
    · obtain ⟨-, hb⟩ := ShareAccounting.shouldAcknowledge_eq_some_iff.mp hack
      cases b
      · exact ⟨fun _ h => (nomatch h), fun _ _ h => (nomatch h),
          fun _ => ⟨rfl, fun hk => Bool.false_ne_true (hb.mpr hk)⟩,
          fun _ _ _ h => (nomatch h)⟩
      · refine ⟨fun _ h => (nomatch h), fun _ _ h => (nomatch h), fun h => (nomatch h), ?_⟩
        rintro _ _ _ ⟨⟩
        exact ⟨rfl, (hb.mp rfl).1, (hb.mp rfl).2, rfl, rfl, rfl⟩

end Acknowledgement

theorem validateShare_acknowledgement {P : Primitives} {s s' : StandardChannel}
    {share : SubmitSharesStandard} {r : Except ShareValidationError ShareValidationResult}
    (hbatch : 0 < s.shareAccounting.shareBatchSize) (h : s.validateShare P share = some (r, s')) :
    AcknowledgesBatches P s share r s' := by
  refine ⟨validateShare_verdictCredits h, fun job tip hstale hjob htip hnet => ?_,
    fun job tip hstale hjob htip hnet htarget hseen => ?_⟩
  · rw [validateShare_of_block hstale hjob htip hnet] at h
    cases h
    exact ⟨_, _, rfl⟩
  · rw [validateShare_of_credit hstale hjob htip hnet htarget hseen
      (ShareAccounting.shouldAcknowledge_of_pos hbatch)] at h
    cases h
    simp only [decide_eq_true_eq]
    rfl

theorem validateShare_acknowledgement_of_sampleShare :
    ∃ s₀ s s' r,
      new .noShareABlock 1 sampleExtranoncePrefix maxTarget 10.0 100 1.0 JobStore.empty =
        .ok s₀ ∧
      runOps .noShareABlock s₀ activatedJobRun = some s ∧
      0 < s.shareAccounting.shareBatchSize ∧
      s.validateShare .noShareABlock sampleShare = some (r, s') ∧
      AcknowledgesBatches .noShareABlock s sampleShare r s' :=
  ⟨_, _, _, _, rfl, rfl, by decide, rfl,
    validateShare_acknowledgement (P := .noShareABlock) (by decide) (by rfl)⟩

/-- A found block that ends a batch of one is credited without an acknowledgement. -/
theorem block_share_ends_batch_unacknowledged :
    ∃ s₀ s s' cb,
      new .everyShareABlock 1 sampleExtranoncePrefix maxTarget 10.0 1 1.0 JobStore.empty =
        .ok s₀ ∧
      runOps .everyShareABlock s₀ activatedJobRun = some s ∧
      s.shareAccounting.sharesAccepted = 0 ∧
      s.validateShare .everyShareABlock sampleShare = some (.ok (.blockFound (some 1) cb), s') ∧
      s'.shareAccounting.sharesAccepted = 1 :=
  ⟨_, _, _, _, rfl, rfl, rfl, rfl, rfl⟩

/-- The work `validate_share` credits a share with: the difficulty of the channel target,
truncated to `u64`. -/
def StandardChannel.shareWork (P : Primitives) (s : StandardChannel) : UInt64 :=
  (P.targetToDifficulty s.target).toUInt64

/-- The credit of one call: the channel's share work when the call is `validate_share` and is
answered with `Ok`. -/
def ChannelOp.credit (P : Primitives) (s : StandardChannel) : ChannelOp → List UInt64
  | .validateShare share =>
      if (s.validateShare P share).any (·.1.isOk) then [s.shareWork P] else []
  | _ => []

/-- The credits of a run, in order. -/
def creditedWork (P : Primitives) : StandardChannel → List ChannelOp → List UInt64
  | _, [] => []
  | s, op :: ops =>
      match op.run P s with
      | none => []
      | some s' => op.credit P s ++ creditedWork P s' ops

section Ledger

variable {P : Primitives} {s s' : StandardChannel}

/-- A share answered with `Ok` is credited once with the channel's share work; any other answer
leaves the channel as it was. -/
theorem validateShare_ok_credit {share : SubmitSharesStandard}
    {r : Except ShareValidationError ShareValidationResult}
    (h : s.validateShare P share = some (r, s')) :
    (r.isOk = false ∧ s' = s) ∨
      (r.isOk = true ∧ s'.shareAccounting.sharesAccepted = s.shareAccounting.sharesAccepted + 1 ∧
        s'.shareAccounting.shareWorkSum = s.shareAccounting.shareWorkSum + s.shareWork P) := by
  rcases validateShare_cases h with ⟨rfl, e, rfl⟩ | ⟨job, tip, -, -, -, hcredit⟩
  · exact .inl ⟨rfl, rfl⟩
  · dsimp only at hcredit
    rcases hcredit with ⟨-, rfl, rfl⟩ | ⟨-, -, -, b, -, rfl, rfl⟩
    · exact .inr ⟨rfl, rfl, rfl⟩
    · cases b <;> exact .inr ⟨rfl, rfl, rfl⟩

/-- Every call adds its credit to the counters, which wrap at `2 ^ 64`. -/
theorem ChannelOp.run_credit {op : ChannelOp} (h : op.run P s = some s') :
    s'.shareAccounting.sharesAccepted.toNat =
        (s.shareAccounting.sharesAccepted.toNat + (op.credit P s).length) % 2 ^ 64 ∧
      s'.shareAccounting.shareWorkSum =
        (op.credit P s).foldl (· + ·) s.shareAccounting.shareWorkSum := by
  have hlt : s.shareAccounting.sharesAccepted.toNat < 2 ^ 64 :=
    s.shareAccounting.sharesAccepted.toNat_lt_size
  have hsame (he : s'.shareAccounting = s.shareAccounting) (hc : op.credit P s = []) :
      s'.shareAccounting.sharesAccepted.toNat =
          (s.shareAccounting.sharesAccepted.toNat + (op.credit P s).length) % 2 ^ 64 ∧
        s'.shareAccounting.shareWorkSum =
          (op.credit P s).foldl (· + ·) s.shareAccounting.shareWorkSum := by
    rw [he, hc, List.length_nil, Nat.add_zero, Nat.mod_eq_of_lt hlt]; exact ⟨rfl, rfl⟩
  cases op with
  | validateShare share =>
      obtain ⟨r, hv⟩ := ChannelOp.run_validateShare.mp h
      rcases validateShare_ok_credit hv with ⟨hr, rfl⟩ | ⟨hr, ha, hw⟩
      · exact hsame rfl (by simp [ChannelOp.credit, hv, hr])
      · have hc : ChannelOp.credit P s (.validateShare share) = [s.shareWork P] := by
          simp [ChannelOp.credit, hv, hr]
        rw [hc, ha, hw]
        exact ⟨rfl, rfl⟩
  | onNewTemplate t o =>
      cases h
      obtain ⟨_, _, he⟩ := onNewTemplate_shape (P := P) (s := s) t o
      exact hsame (by rw [he]) rfl
  | onSetNewPrevHash m =>
      cases h
      obtain ⟨_, _, he⟩ := onSetNewPrevHash_shape (s := s) m
      exact hsame (by rw [he]) rfl
  | updateChannel hashrate m =>
      cases h
      obtain ⟨_, _, _, he⟩ := updateChannel_shape (P := P) (s := s) hashrate m
      exact hsame (by rw [he]) rfl
  | setExtranoncePrefix p =>
      cases h
      obtain ⟨_, he⟩ := setExtranoncePrefix_shape (s := s) p
      exact hsame (by rw [he]) rfl
  | setTarget _ => cases h; exact hsame rfl rfl
  | setNominalHashrate _ => cases h; exact hsame rfl rfl

theorem runOps_credit {ops : List ChannelOp} (h : runOps P s ops = some s') :
    s'.shareAccounting.sharesAccepted.toNat =
        (s.shareAccounting.sharesAccepted.toNat + (creditedWork P s ops).length) % 2 ^ 64 ∧
      s'.shareAccounting.shareWorkSum =
        (creditedWork P s ops).foldl (· + ·) s.shareAccounting.shareWorkSum := by
  induction ops generalizing s with
  | nil => cases h; exact ⟨(Nat.mod_eq_of_lt (UInt64.toNat_lt_size _)).symm, rfl⟩
  | cons op ops ih =>
      obtain ⟨s₁, h₁, h₂⟩ := runOps_cons.mp h
      obtain ⟨ha₁, hw₁⟩ := ChannelOp.run_credit h₁
      obtain ⟨ha, hw⟩ := ih h₂
      simp only [creditedWork, h₁, List.length_append, List.foldl_append]
      rw [ha, ha₁, hw, hw₁, Nat.mod_add_mod, Nat.add_assoc]
      exact ⟨rfl, rfl⟩

end Ledger

theorem shareAccounting_counts_credits {P : Primitives} {channelId : UInt32}
    {extranoncePrefix : List UInt8} {requestedMaxTarget : Target} {hashrate : Float}
    {shareBatchSize : Nat} {expectedSharePerMinute : Float} {jobStore : JobStore}
    {s₀ s : StandardChannel} {ops : List ChannelOp}
    (hnew : new P channelId extranoncePrefix requestedMaxTarget hashrate shareBatchSize
      expectedSharePerMinute jobStore = .ok s₀)
    (hrun : runOps P s₀ ops = some s) :
    s.shareAccounting.sharesAccepted.toNat = (creditedWork P s₀ ops).length % 2 ^ 64 ∧
      s.shareAccounting.shareWorkSum = (creditedWork P s₀ ops).foldl (· + ·) 0 := by
  have h₀ := (new_eq_ok hnew).2.2.2.2.2.2
  have := runOps_credit hrun
  rw [h₀] at this
  exact ⟨by simpa [ShareAccounting.new] using this.1, this.2⟩

/-- A share credited once and then submitted again as a duplicate: one credit. -/
theorem shareAccounting_counts_credits_of_duplicate :
    ∃ s₀ s,
      new .noShareABlock 1 sampleExtranoncePrefix maxTarget 10.0 100 1.0 JobStore.empty =
        .ok s₀ ∧
      runOps .noShareABlock s₀
        (activatedJobRun ++ [.validateShare sampleShare, .validateShare sampleShare]) = some s ∧
      s.shareAccounting.sharesAccepted.toNat =
        (creditedWork .noShareABlock s₀
          (activatedJobRun ++ [.validateShare sampleShare, .validateShare sampleShare])).length %
          2 ^ 64 ∧
      s.shareAccounting.shareWorkSum =
        (creditedWork .noShareABlock s₀
          (activatedJobRun ++ [.validateShare sampleShare, .validateShare sampleShare])).foldl
          (· + ·) 0 :=
  ⟨_, _, rfl, rfl,
    @shareAccounting_counts_credits .noShareABlock 1 sampleExtranoncePrefix maxTarget 10.0 100 1.0
      JobStore.empty _ _ _ rfl rfl⟩

end StratumV2
