import StratumV2.Run

/-!
# Stratum V2: the job lifecycle and the chain tip

What a call does to the jobs, the job factory and the chain tip, as one step relation,
`JobStep`: it changes none of them; the factory takes a job id and fails; a job is built and
installed as a future job, or as the active job under the current chain tip; or a
`SetNewPrevHash` replaces the chain tip and activates the future job of the template it names
when that template is pending.  `ChannelOp.run_jobStep` connects the calls to it, and every
property of the jobs along runs of calls is derived from it.

`on_set_new_prev_hash` checks only that some future job exists.  A message naming a template
that is not pending replaces the chain tip and keeps the active and past jobs made under the
previous one.

**Results.**
* `chainTip_isSome_of_jobs`: along every run from a channel built by `new` over an empty job
  store, a chain tip is set whenever a job is active, past or stale.
* `onSetNewPrevHash_keeps_job_of_earlier_tip`: a run in which the job activated under the
  first chain tip stays active under the second, where its share is a found block.
* `onSetNewPrevHash_ok_for_template_not_pending`: a `SetNewPrevHash` for a template that is not
  pending succeeds while another template is, and leaves the job store as it was.
-/

namespace StratumV2

open StandardChannel

/-- What one call can do to the job store, the job factory and the chain tip. -/
inductive JobStep (P : Primitives) (s : StandardChannel) : StandardChannel → Prop
  | frame {s' : StandardChannel} (hstore : s'.jobStore = s.jobStore)
      (htip : s'.chainTip = s.chainTip) (hfactory : s'.jobFactory = s.jobFactory) :
      JobStep P s s'
  | failedJob {s' : StandardChannel} (tip : Option ChainTip) (t : NewTemplate) (o : List TxOut)
      (e : JobFactoryError) (hstore : s'.jobStore = s.jobStore)
      (htip : s'.chainTip = s.chainTip)
      (hfactory : s.jobFactory.newStandardJob P.sha256d s.channelId tip s.extranoncePrefix t o =
        (.error e, s'.jobFactory)) :
      JobStep P s s'
  | futureJob {s' : StandardChannel} (t : NewTemplate) (o : List TxOut) (job : StandardJob)
      (htip : s'.chainTip = s.chainTip)
      (hfactory : s.jobFactory.newStandardJob P.sha256d s.channelId none s.extranoncePrefix t o =
        (.ok job, s'.jobFactory))
      (hstore : s'.jobStore = s.jobStore.addFutureJob t.templateId job) :
      JobStep P s s'
  | activeJob {s' : StandardChannel} (tip : ChainTip) (t : NewTemplate) (o : List TxOut)
      (job : StandardJob) (hcur : s.chainTip = some tip) (htip : s'.chainTip = s.chainTip)
      (hfactory : s.jobFactory.newStandardJob P.sha256d s.channelId (some tip)
        s.extranoncePrefix t o = (.ok job, s'.jobFactory))
      (hstore : s'.jobStore = s.jobStore.addActiveJob job) :
      JobStep P s s'
  | newPrevHash {s' : StandardChannel} (m : SetNewPrevHash)
      (hfuture : s.jobStore.futureJobs.entries ≠ []) (hfactory : s'.jobFactory = s.jobFactory)
      (htip : s'.chainTip = some ⟨m.prevHash, m.nBits, m.headerTimestamp⟩)
      (hstore : s'.jobStore =
        (s.jobStore.activateFutureJob m.templateId m.headerTimestamp).getD s.jobStore) :
      JobStep P s s'

/-- Every call is a `JobStep`. -/
theorem ChannelOp.run_jobStep {P : Primitives} {s s' : StandardChannel} {op : ChannelOp}
    (h : op.run P s = some s') : JobStep P s s' := by
  cases op with
  | onNewTemplate t o =>
      cases h
      rcases onNewTemplate_cases (Prod.mk.eta (p := s.onNewTemplate P t o)).symm with
        ⟨-, f, -, he, rfl | ⟨tip, e, hf⟩⟩ | ⟨job, f, -, hjob, -, he⟩ |
          ⟨job, f, tip, -, hcur, hjob, -, he⟩ <;> rw [he]
      · exact .frame rfl rfl rfl
      · exact .failedJob tip t o e rfl rfl hf
      · exact .futureJob t o job rfl hjob rfl
      · exact .activeJob tip t o job hcur rfl hjob rfl
  | onSetNewPrevHash m =>
      cases h
      rcases onSetNewPrevHash_cases (Prod.mk.eta (p := s.onSetNewPrevHash m)).symm with
        ⟨-, -, he⟩ | ⟨hne, -, he⟩ <;> rw [he]
      · exact .frame rfl rfl rfl
      · exact .newPrevHash m hne rfl rfl rfl
  | validateShare share =>
      obtain ⟨_, hv⟩ := ChannelOp.run_validateShare.mp h
      obtain ⟨_, rfl⟩ := validateShare_shape hv
      exact .frame rfl rfl rfl
  | updateChannel hashrate m =>
      cases h
      obtain ⟨_, _, _, he⟩ := updateChannel_shape (P := P) (s := s) hashrate m
      rw [he]; exact .frame rfl rfl rfl
  | setExtranoncePrefix p =>
      cases h
      obtain ⟨_, he⟩ := setExtranoncePrefix_shape (s := s) p
      rw [he]; exact .frame rfl rfl rfl
  | setTarget t => cases h; exact .frame rfl rfl rfl
  | setNominalHashrate hashrate => cases h; exact .frame rfl rfl rfl

/-- No job is active, past or stale while no chain tip is set. -/
def TipCoversJobs (s : StandardChannel) : Prop :=
  s.chainTip = none →
    s.jobStore.activeJob = none ∧ s.jobStore.pastJobs = ∅ ∧ s.jobStore.staleJobs = ∅

theorem JobStep.tipCoversJobs {P : Primitives} {s s' : StandardChannel} (h : JobStep P s s')
    (hs : TipCoversJobs s) : TipCoversJobs s' := by
  cases h with
  | frame hstore htip => rw [TipCoversJobs, hstore, htip]; exact hs
  | failedJob _ _ _ _ hstore htip => rw [TipCoversJobs, hstore, htip]; exact hs
  | futureJob _ _ _ htip _ hstore => rw [TipCoversJobs, hstore, htip]; exact hs
  | activeJob _ _ _ _ hcur htip => intro hn; rw [htip, hcur] at hn; cases hn
  | newPrevHash _ _ _ htip => intro hn; rw [htip] at hn; cases hn

theorem chainTip_isSome_of_jobs {P : Primitives} {channelId : UInt32}
    {extranoncePrefix : List UInt8} {requestedMaxTarget : Target} {hashrate : Float}
    {shareBatchSize : Nat} {expectedSharePerMinute : Float} {s₀ s : StandardChannel}
    {ops : List ChannelOp}
    (hnew : new P channelId extranoncePrefix requestedMaxTarget hashrate shareBatchSize
      expectedSharePerMinute JobStore.empty = .ok s₀)
    (hrun : runOps P s₀ ops = some s) : TipCoversJobs s := by
  have h₀ : TipCoversJobs s₀ := fun _ => by
    rw [(new_eq_ok hnew).2.2.2.1]; exact ⟨rfl, rfl, rfl⟩
  exact runOps_invariant_of_step (fun _ _ _ hs h => (ChannelOp.run_jobStep h).tipCoversJobs hs)
    h₀ hrun

/-- A channel that holds an active or a past job has a chain tip. -/
theorem TipCoversJobs.exists_chainTip {s : StandardChannel} {k : UInt32} (hs : TipCoversJobs s)
    (h : s.jobStore.activeJob.any (·.jobId == k) = true ∨ k ∈ s.jobStore.pastJobs) :
    ∃ tip, s.chainTip = some tip := by
  cases htip : s.chainTip with
  | some tip => exact ⟨tip, rfl⟩
  | none =>
      obtain ⟨ha, hp, -⟩ := hs htip
      rw [ha, hp] at h
      simp at h

/-- The job of template 1 is activated under a first chain tip; a second `SetNewPrevHash`
names template 3, which is not pending, while the future job of template 2 waits. -/
def staleTipRun : List ChannelOp :=
  [.onNewTemplate (sampleTemplate 1 true) sampleRewardOutputs,
    .onSetNewPrevHash ⟨1, Hash32.zero, 1000, 0x1d00ffff⟩,
    .onNewTemplate (sampleTemplate 2 true) sampleRewardOutputs,
    .onSetNewPrevHash ⟨3, Hash32.one, 2000, 0x1d00ffff⟩]

theorem onSetNewPrevHash_keeps_job_of_earlier_tip :
    ∃ s₀ s₁ s cb s',
      new .everyShareABlock 1 sampleExtranoncePrefix maxTarget 10.0 100 1.0 JobStore.empty =
        .ok s₀ ∧
      runOps .everyShareABlock s₀ (staleTipRun.take 2) = some s₁ ∧
      s₁.chainTip = some ⟨Hash32.zero, 0x1d00ffff, 1000⟩ ∧
      s₁.jobStore.activeJob.map StandardJob.jobId = some 1 ∧
      runOps .everyShareABlock s₁ (staleTipRun.drop 2) = some s ∧
      s.chainTip = some ⟨Hash32.one, 0x1d00ffff, 2000⟩ ∧
      s.jobStore.activeJob = s₁.jobStore.activeJob ∧
      s.validateShare .everyShareABlock ⟨0, 1, 3, 2001, 536870912⟩ =
        some (.ok (.blockFound (some 1) cb), s') :=
  ⟨_, _, _, _, _, rfl, rfl, rfl, rfl, rfl, rfl, rfl, rfl⟩

/-- With the future job of template 2 waiting, a `SetNewPrevHash` for template 3, which is not
pending, succeeds: it keeps every job and replaces the chain tip. -/
theorem onSetNewPrevHash_ok_for_template_not_pending :
    ∃ s₀ s s',
      new .everyShareABlock 1 sampleExtranoncePrefix maxTarget 10.0 100 1.0 JobStore.empty =
        .ok s₀ ∧
      runOps .everyShareABlock s₀ (staleTipRun.take 3) = some s ∧
      s.jobStore.futureTemplateToJobId.lookup 3 = none ∧
      s.onSetNewPrevHash ⟨3, Hash32.one, 2000, 0x1d00ffff⟩ = (.ok (), s') ∧
      s'.jobStore = s.jobStore ∧ s'.chainTip = some ⟨Hash32.one, 0x1d00ffff, 2000⟩ :=
  ⟨_, _, _, rfl, rfl, rfl, rfl, rfl, rfl⟩

end StratumV2
