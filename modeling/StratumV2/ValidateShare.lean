import StratumV2.Channel

/-!
# Stratum V2: share validation

`StandardChannel::validate_share` (`standard.rs`, lines 331–488).  A share names a job; a stale
job id is rejected first, then an id that is neither the active job's nor a past job's.  The
share's header is rebuilt from the share, the chain tip and the job's merkle root, and its hash,
read as a little-endian integer, is compared first with the network target decoded from the
tip's `nbits` (a found block) and then with the channel target (a valid share, unless its hash
was credited before).

The call returns `none` when it panics: `should_acknowledge` takes a remainder by the batch
size, which panics when the batch size is zero.  The `expect`s on the job lookups cannot fail,
and serializing the coinbase into a `Vec<u8>` cannot fail either, so the `InvalidCoinbase` exit
of the source is never taken and does not appear here.

**Results.**
* `validateShare_cases`: every outcome of one call — a rejection that changes nothing, a found
  block credited once, or a valid share credited once with its acknowledgement decided after
  the credit.
* The converse, one lemma per branch: the verdict of a stale id (`validateShare_of_stale`), of
  an id that is neither active nor past (`validateShare_of_not_held`), of a missing chain tip
  (`validateShare_of_no_tip`), and past these guards of a hash that meets the network target
  (`validateShare_of_block`), of one that meets only the channel target, seen before
  (`validateShare_of_duplicate`) or not (`validateShare_of_credit`), and of one that meets
  neither (`validateShare_of_low`).
-/

namespace StratumV2

/-- `ShareValidationError`. -/
inductive ShareValidationError
  | stale
  | invalidJobId
  | noChainTip
  | doesNotMeetTarget
  | duplicateShare
  | invalidCoinbase
deriving DecidableEq, Repr

/-- `ShareValidationResult`. -/
inductive ShareValidationResult
  | valid
  | validWithAcknowledgement (lastSequenceNumber : UInt32) (newSubmitsAcceptedCount : UInt64)
      (newSharesSum : UInt64)
  | blockFound (templateId : Option UInt64) (coinbase : List UInt8)
deriving DecidableEq, Repr

/-- The coinbase `validate_share` rebuilds from a job when its share is a block: script_sig is
the template's coinbase prefix followed by the job's extranonce prefix (lines 428–443). -/
def StandardJob.blockCoinbase (job : StandardJob) : Transaction :=
  let scriptSig := job.template.coinbasePrefix ++ job.extranoncePrefix
  let txIn : TxIn :=
    { previousOutput := OutPoint.null
      scriptSig
      sequence := job.template.coinbaseTxInputSequence
      witness := [List.replicate 32 0] }
  { version := job.template.coinbaseTxVersion
    lockTime := job.template.coinbaseTxLocktime
    input := [txIn]
    output := job.coinbaseOutputs }

/-- The header of a share of `job` under `chainTip` (lines 389–396). -/
def shareHeader (share : SubmitSharesStandard) (chainTip : ChainTip) (job : StandardJob) :
    Header where
  version := share.version
  prevBlockhash := chainTip.prevHash
  merkleRoot := job.jobMessage.merkleRoot
  time := share.ntime
  bits := chainTip.nbits
  nonce := share.nonce

/-- The hash of the header of a share of `job` under `chainTip`, which `validate_share` compares
with the targets. -/
def shareHash (P : Primitives) (share : SubmitSharesStandard) (chainTip : ChainTip)
    (job : StandardJob) : Hash32 :=
  (shareHeader share chainTip job).blockHash P.sha256d

namespace StandardChannel

variable (P : Primitives)

/-- The job a share names, as `validate_share` looks it up: the active job if the id is its,
else a past job, else a stale job. -/
def resolveJob (store : JobStore) (jobId : UInt32) : Option StandardJob :=
  if store.activeJob.any (·.jobId == jobId) then store.activeJob
  else if jobId ∈ store.pastJobs then store.pastJobs.lookup jobId
  else store.staleJobs.lookup jobId

/-- Lines 385–487 of `validate_share`: the share of `job` checked against `chainTip`. -/
def checkShare (self : StandardChannel) (share : SubmitSharesStandard) (job : StandardJob)
    (chainTip : ChainTip) :
    Option (Except ShareValidationError ShareValidationResult × StandardChannel) :=
  let hash := (shareHeader share chainTip job).blockHash P.sha256d
  let hashAsTarget := hash.toTarget
  let hashAsDiff := P.targetToDifficulty hashAsTarget
  let networkTarget := P.fromCompact chainTip.nbits
  let shareWork := (P.targetToDifficulty self.target).toUInt64
  if hashAsTarget ≤ networkTarget then
    let shareAccounting :=
      self.shareAccounting.updateShareAccounting shareWork share.sequenceNumber hash
    some (.ok (.blockFound (some job.template.templateId) job.blockCoinbase.consensusEncode),
      { self with shareAccounting })
  else if hashAsTarget ≤ self.target then
    if self.shareAccounting.isShareSeen hash then some (.error .duplicateShare, self)
    else
      let shareAccounting :=
        (self.shareAccounting.updateShareAccounting shareWork share.sequenceNumber
          hash).updateBestDiff hashAsDiff
      match shareAccounting.shouldAcknowledge with
      | none => none
      | some true =>
          some (.ok (.validWithAcknowledgement shareAccounting.lastShareSequenceNumber
              shareAccounting.sharesAccepted shareAccounting.shareWorkSum),
            { self with shareAccounting })
      | some false => some (.ok .valid, { self with shareAccounting })
  else some (.error .doesNotMeetTarget, self)

/-- `StandardChannel::validate_share`; `none` is a panic. -/
def validateShare (self : StandardChannel) (share : SubmitSharesStandard) :
    Option (Except ShareValidationError ShareValidationResult × StandardChannel) :=
  let jobId := share.jobId
  let isActiveJob := self.jobStore.activeJob.any (·.jobId == jobId)
  let isPastJob := decide (jobId ∈ self.jobStore.pastJobs)
  let isStaleJob := decide (jobId ∈ self.jobStore.staleJobs)
  if isStaleJob then some (.error .stale, self)
  else if !isActiveJob && !isPastJob && !isStaleJob then some (.error .invalidJobId, self)
  else
    match resolveJob self.jobStore jobId with
    | none => none
    | some job =>
        match self.chainTip with
        | none => some (.error .noChainTip, self)
        | some chainTip => self.checkShare P share job chainTip

variable {P}

/-- Every outcome of `checkShare`. -/
theorem checkShare_cases {s s' : StandardChannel} {share : SubmitSharesStandard}
    {job : StandardJob} {tip : ChainTip}
    {r : Except ShareValidationError ShareValidationResult}
    (h : s.checkShare P share job tip = some (r, s')) :
    let hash := (shareHeader share tip job).blockHash P.sha256d
    let work := (P.targetToDifficulty s.target).toUInt64
    (s' = s ∧ ∃ e, r = .error e) ∨
    (hash.toTarget ≤ P.fromCompact tip.nbits ∧
      r = .ok (.blockFound (some job.template.templateId) job.blockCoinbase.consensusEncode) ∧
      s' = { s with
        shareAccounting := s.shareAccounting.updateShareAccounting work share.sequenceNumber
          hash }) ∨
    (¬ hash.toTarget ≤ P.fromCompact tip.nbits ∧ hash.toTarget ≤ s.target ∧
      hash ∉ s.shareAccounting.seenShares ∧
      ∃ b, (s.shareAccounting.updateShareAccounting work share.sequenceNumber
          hash).shouldAcknowledge = some b ∧
        s' = { s with
          shareAccounting :=
            (s.shareAccounting.updateShareAccounting work share.sequenceNumber hash).updateBestDiff
              (P.targetToDifficulty hash.toTarget) } ∧
        r = if b then
              .ok (.validWithAcknowledgement share.sequenceNumber
                (s.shareAccounting.sharesAccepted + 1) (s.shareAccounting.shareWorkSum + work))
            else .ok .valid) := by
  intro hash work
  unfold checkShare at h
  dsimp only at h
  split_ifs at h with hnet htarget hseen
  · cases h; exact .inr (.inl ⟨hnet, rfl, rfl⟩)
  · cases h; exact .inl ⟨rfl, _, rfl⟩
  · simp only [ShareAccounting.isShareSeen_iff] at hseen
    split at h
    · cases h
    · rename_i hack; cases h
      exact .inr (.inr ⟨hnet, htarget, hseen, true, by simpa using hack, rfl, rfl⟩)
    · rename_i hack; cases h
      exact .inr (.inr ⟨hnet, htarget, hseen, false, by simpa using hack, rfl, rfl⟩)
  · cases h; exact .inl ⟨rfl, _, rfl⟩

/-- What `validate_share` needs before it checks a share: a job that is not stale, the job it
resolves to, and a chain tip. -/
theorem validateShare_eq_checkShare {s : StandardChannel} {share : SubmitSharesStandard}
    {r : Except ShareValidationError ShareValidationResult} {s' : StandardChannel}
    (h : s.validateShare P share = some (r, s')) :
    (s' = s ∧ ∃ e, r = .error e) ∨
    ∃ job tip, share.jobId ∉ s.jobStore.staleJobs ∧
      resolveJob s.jobStore share.jobId = some job ∧ s.chainTip = some tip ∧
      s.checkShare P share job tip = some (r, s') := by
  unfold validateShare at h
  dsimp only at h
  split_ifs at h with hstale hinvalid
  · cases h; exact .inl ⟨rfl, _, rfl⟩
  · cases h; exact .inl ⟨rfl, _, rfl⟩
  · simp only [decide_eq_true_eq] at hstale
    split at h
    · cases h
    · rename_i job hjob
      split at h
      · cases h; exact .inl ⟨rfl, _, rfl⟩
      · exact .inr ⟨job, _, hstale, hjob, ‹_›, h⟩

/-- Every outcome of `validate_share`: a rejection that changes nothing, a found block credited
once, or a share credited once on the channel target, acknowledged when the credit ends a batch. -/
theorem validateShare_cases {s s' : StandardChannel} {share : SubmitSharesStandard}
    {r : Except ShareValidationError ShareValidationResult}
    (h : s.validateShare P share = some (r, s')) :
    (s' = s ∧ ∃ e, r = .error e) ∨
    ∃ job tip, share.jobId ∉ s.jobStore.staleJobs ∧
      resolveJob s.jobStore share.jobId = some job ∧ s.chainTip = some tip ∧
      let hash := (shareHeader share tip job).blockHash P.sha256d
      let work := (P.targetToDifficulty s.target).toUInt64
      (hash.toTarget ≤ P.fromCompact tip.nbits ∧
        r = .ok (.blockFound (some job.template.templateId) job.blockCoinbase.consensusEncode) ∧
        s' = { s with
          shareAccounting := s.shareAccounting.updateShareAccounting work share.sequenceNumber
            hash }) ∨
      (¬ hash.toTarget ≤ P.fromCompact tip.nbits ∧ hash.toTarget ≤ s.target ∧
        hash ∉ s.shareAccounting.seenShares ∧
        ∃ b, (s.shareAccounting.updateShareAccounting work share.sequenceNumber
            hash).shouldAcknowledge = some b ∧
          s' = { s with
            shareAccounting :=
              (s.shareAccounting.updateShareAccounting work share.sequenceNumber
                hash).updateBestDiff (P.targetToDifficulty hash.toTarget) } ∧
          r = if b then
                .ok (.validWithAcknowledgement share.sequenceNumber
                  (s.shareAccounting.sharesAccepted + 1) (s.shareAccounting.shareWorkSum + work))
              else .ok .valid) := by
  rcases validateShare_eq_checkShare h with hrej | ⟨job, tip, hstale, hjob, htip, hcheck⟩
  · exact .inl hrej
  · rcases checkShare_cases hcheck with hrej | hcredit
    · exact .inl hrej
    · exact .inr ⟨job, tip, hstale, hjob, htip, hcredit⟩

/-- A rejected share leaves the channel as it was. -/
theorem validateShare_error {s s' : StandardChannel} {share : SubmitSharesStandard}
    {e : ShareValidationError} (h : s.validateShare P share = some (.error e, s')) : s' = s := by
  rcases validateShare_cases h with ⟨rfl, -⟩ | ⟨job, tip, -, -, -, hcredit⟩
  · rfl
  · dsimp only at hcredit
    rcases hcredit with ⟨-, hr, -⟩ | ⟨-, -, -, b, -, -, hr⟩
    · cases hr
    · cases b <;> cases hr

/-- A call changes at most the share accounting. -/
theorem validateShare_shape {s s' : StandardChannel} {share : SubmitSharesStandard}
    {r : Except ShareValidationError ShareValidationResult}
    (h : s.validateShare P share = some (r, s')) :
    ∃ a, s' = { s with shareAccounting := a } := by
  rcases validateShare_cases h with ⟨rfl, -⟩ | ⟨job, tip, -, -, -, hcredit⟩
  · exact ⟨_, rfl⟩
  · dsimp only at hcredit
    rcases hcredit with ⟨-, -, rfl⟩ | ⟨-, -, -, -, -, rfl, -⟩ <;> exact ⟨_, rfl⟩

section JobChecks

variable {s : StandardChannel} {share : SubmitSharesStandard}

/-- A share of a stale job is rejected as stale, and the channel is unchanged. -/
theorem validateShare_of_stale (h : share.jobId ∈ s.jobStore.staleJobs) :
    s.validateShare P share = some (.error .stale, s) := by
  simp [validateShare, h]

/-- A share whose job is neither active, past nor stale is rejected as an invalid job id. -/
theorem validateShare_of_not_held (ha : s.jobStore.activeJob.any (·.jobId == share.jobId) = false)
    (hp : share.jobId ∉ s.jobStore.pastJobs) (hst : share.jobId ∉ s.jobStore.staleJobs) :
    s.validateShare P share = some (.error .invalidJobId, s) := by
  simp [validateShare, ha, hp, hst]

/-- A share that `resolveJob` finds and that is not stale names the active job or a past job. -/
theorem resolveJob_known {store : JobStore} {jobId : UInt32} {job : StandardJob}
    (h : resolveJob store jobId = some job) (hstale : jobId ∉ store.staleJobs) :
    store.activeJob.any (·.jobId == jobId) = true ∨ jobId ∈ store.pastJobs := by
  unfold resolveJob at h
  split_ifs at h with ha hp
  · exact .inl ha
  · exact .inr hp
  · exact absurd (AList.lookup_isSome.mp (by rw [h]; rfl)) hstale

/-- The `expect`s of the lookup hold: the active job or a past job is found. -/
theorem resolveJob_isSome {store : JobStore} {jobId : UInt32}
    (h : store.activeJob.any (·.jobId == jobId) = true ∨ jobId ∈ store.pastJobs) :
    (resolveJob store jobId).isSome := by
  unfold resolveJob
  by_cases ha : store.activeJob.any (·.jobId == jobId) = true
  · rw [if_pos ha]
    cases hj : store.activeJob
    · rw [hj] at ha; cases ha
    · rfl
  · rw [if_neg ha, if_pos (h.resolve_left ha)]
    exact AList.lookup_isSome.mpr (h.resolve_left ha)

/-- A share of the active job or a past job is rejected with `NoChainTip` when the channel has no
chain tip. -/
theorem validateShare_of_no_tip
    (hheld : s.jobStore.activeJob.any (·.jobId == share.jobId) = true ∨
      share.jobId ∈ s.jobStore.pastJobs)
    (hstale : share.jobId ∉ s.jobStore.staleJobs) (htip : s.chainTip = none) :
    s.validateShare P share = some (.error .noChainTip, s) := by
  obtain ⟨job, hjob⟩ := Option.isSome_iff_exists.mp (resolveJob_isSome hheld)
  unfold validateShare
  rcases hheld with h | h <;> simp [hstale, hjob, htip, h]

/-- Past its guards, `validate_share` is `checkShare` on the job it finds and the chain tip. -/
theorem validateShare_of_checks {job : StandardJob} {tip : ChainTip}
    (hstale : share.jobId ∉ s.jobStore.staleJobs)
    (hjob : resolveJob s.jobStore share.jobId = some job) (htip : s.chainTip = some tip) :
    s.validateShare P share = s.checkShare P share job tip := by
  unfold validateShare
  rcases resolveJob_known hjob hstale with h | h <;> simp [hstale, hjob, htip, h]

end JobChecks

/-! ## The verdict of each branch of the checks

Past the guards (the id is not stale, `resolveJob` finds its job, the chain tip is set), the
share's hash selects the verdict. -/

section Checks

variable {s : StandardChannel} {share : SubmitSharesStandard} {job : StandardJob}
  {tip : ChainTip} (hstale : share.jobId ∉ s.jobStore.staleJobs)
  (hjob : resolveJob s.jobStore share.jobId = some job) (htip : s.chainTip = some tip)
include hstale hjob htip

/-- A hash that meets the network target is a found block, credited whether or not it was
seen before. -/
theorem validateShare_of_block
    (hnet : (shareHash P share tip job).toTarget ≤ P.fromCompact tip.nbits) :
    s.validateShare P share =
      some (.ok (.blockFound (some job.template.templateId) job.blockCoinbase.consensusEncode),
        { s with
          shareAccounting := s.shareAccounting.updateShareAccounting
            (P.targetToDifficulty s.target).toUInt64 share.sequenceNumber
            (shareHash P share tip job) }) := by
  rw [validateShare_of_checks hstale hjob htip]
  exact if_pos hnet

/-- A hash that meets only the channel target and was credited before is a duplicate, and
nothing changes. -/
theorem validateShare_of_duplicate
    (hnet : ¬ (shareHash P share tip job).toTarget ≤ P.fromCompact tip.nbits)
    (htarget : (shareHash P share tip job).toTarget ≤ s.target)
    (hseen : shareHash P share tip job ∈ s.shareAccounting.seenShares) :
    s.validateShare P share = some (.error .duplicateShare, s) := by
  unfold shareHash at hnet htarget hseen
  rw [validateShare_of_checks hstale hjob htip]
  unfold checkShare
  dsimp only
  rw [if_neg hnet, if_pos htarget, if_pos ((ShareAccounting.isShareSeen_iff _ _).mpr hseen)]

/-- A fresh hash that meets only the channel target is credited, and `should_acknowledge`
decides between `ValidWithAcknowledgement`, with the accounting after the credit, and
`Valid`. -/
theorem validateShare_of_credit
    (hnet : ¬ (shareHash P share tip job).toTarget ≤ P.fromCompact tip.nbits)
    (htarget : (shareHash P share tip job).toTarget ≤ s.target)
    (hseen : shareHash P share tip job ∉ s.shareAccounting.seenShares) {b : Bool}
    (hack : (s.shareAccounting.updateShareAccounting (P.targetToDifficulty s.target).toUInt64
      share.sequenceNumber (shareHash P share tip job)).shouldAcknowledge = some b) :
    s.validateShare P share =
      some (if b then
          .ok (.validWithAcknowledgement share.sequenceNumber (s.shareAccounting.sharesAccepted + 1)
            (s.shareAccounting.shareWorkSum + (P.targetToDifficulty s.target).toUInt64))
        else .ok .valid,
        { s with
          shareAccounting :=
            (s.shareAccounting.updateShareAccounting (P.targetToDifficulty s.target).toUInt64
              share.sequenceNumber (shareHash P share tip job)).updateBestDiff
              (P.targetToDifficulty (shareHash P share tip job).toTarget) }) := by
  unfold shareHash at hnet htarget hseen hack ⊢
  rw [validateShare_of_checks hstale hjob htip]
  unfold checkShare
  dsimp only
  rw [if_neg hnet, if_pos htarget, if_neg (by simpa using hseen),
    ShareAccounting.shouldAcknowledge_updateBestDiff, hack]
  cases b <;> rfl

/-- A hash that meets neither target is rejected, and nothing changes. -/
theorem validateShare_of_low
    (hnet : ¬ (shareHash P share tip job).toTarget ≤ P.fromCompact tip.nbits)
    (htarget : ¬ (shareHash P share tip job).toTarget ≤ s.target) :
    s.validateShare P share = some (.error .doesNotMeetTarget, s) := by
  unfold shareHash at hnet htarget
  rw [validateShare_of_checks hstale hjob htip]
  unfold checkShare
  dsimp only
  rw [if_neg hnet, if_neg htarget]

end Checks

end StandardChannel

end StratumV2
