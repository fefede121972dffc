import StratumV2.Lifecycle

/-!
# Stratum V2: the coinbase of a found block

The coinbase is built twice: by the job factory, whose merkle root commits to its txid, and by
`validate_share`, which serializes it when a share is a block.  The two constructions are the
same transaction (`StandardJob.blockCoinbase_eq_coinbase`): `validate_share` rebuilds it from
the template, extranonce prefix and outputs the job kept, not from the channel's current
prefix.  Every job in the store was built by the factory (`JobStep.allJobs_fromFactory`), so
the merkle root of a found block's header commits to the coinbase it reports.

**Results.**
* `blockFound_coinbase_of_templateJob`: a share of a job that `on_new_template` built from a
  template, reward outputs and the channel's prefix at that moment, or of its activation, is a
  `BlockFound` only with that template's id and the serialization of the coinbase built from
  them, whose txid, folded with the template's merkle path, is the merkle root of the header
  that met the network target.
* `blockFound_coinbase_matches_job`: along every run from a channel built by `new` over an
  empty job store, every `BlockFound` verdict is of this kind for the job the share names.
-/

namespace StratumV2

open StandardChannel

/-- `validate_share` rebuilds the coinbase the job factory built for the job. -/
theorem StandardJob.blockCoinbase_eq_coinbase (job : StandardJob) :
    job.blockCoinbase = JobFactory.coinbase job.template job.extranoncePrefix job.coinbaseOutputs :=
  rfl

theorem JobStore.AllJobs.resolveJob {p : StandardJob → Prop} {store : JobStore} {jobId : UInt32}
    {job : StandardJob} (hs : store.AllJobs p) (h : resolveJob store jobId = some job) : p job := by
  unfold StandardChannel.resolveJob at h
  split_ifs at h
  · exact hs.active _ h
  · exact hs.past _ _ h
  · exact hs.stale _ _ h

/-- Every call keeps every job of the store one the factory built. -/
theorem JobStep.allJobs_fromFactory {P : Primitives} {s s' : StandardChannel}
    (h : JobStep P s s') (hs : s.jobStore.AllJobs (·.FromFactory P.sha256d)) :
    s'.jobStore.AllJobs (·.FromFactory P.sha256d) := by
  cases h with
  | frame hstore => rw [hstore]; exact hs
  | failedJob _ _ _ _ hstore => rw [hstore]; exact hs
  | futureJob t o job _ hfactory hstore =>
      rw [hstore]
      exact JobStore.allJobs_addFutureJob hs
        ((JobFactory.newStandardJob_spec hfactory).2 job rfl).2.2.2.2.2 _
  | activeJob _ _ _ job _ _ hfactory hstore =>
      rw [hstore]
      exact JobStore.allJobs_addActiveJob hs
        ((JobFactory.newStandardJob_spec hfactory).2 job rfl).2.2.2.2.2
  | newPrevHash m _ _ _ hstore =>
      rw [hstore]
      cases ha : s.jobStore.activateFutureJob m.templateId m.headerTimestamp with
      | none => exact hs
      | some _ =>
          exact JobStore.allJobs_activateFutureJob hs
            (fun _ t => (StandardJob.fromFactory_activate t).mpr) ha

theorem blockFound_coinbase_matches_job {P : Primitives} {channelId : UInt32}
    {extranoncePrefix : List UInt8} {requestedMaxTarget : Target} {hashrate : Float}
    {shareBatchSize : Nat} {expectedSharePerMinute : Float} {s₀ s s' : StandardChannel}
    {ops : List ChannelOp} {share : SubmitSharesStandard} {tid : Option UInt64}
    {cb : List UInt8}
    (hnew : new P channelId extranoncePrefix requestedMaxTarget hashrate shareBatchSize
      expectedSharePerMinute JobStore.empty = .ok s₀)
    (hrun : runOps P s₀ ops = some s)
    (hfound : s.validateShare P share = some (.ok (.blockFound tid cb), s')) :
    ∃ job tip, resolveJob s.jobStore share.jobId = some job ∧ s.chainTip = some tip ∧
      let coinbase := JobFactory.coinbase job.template job.extranoncePrefix job.coinbaseOutputs
      tid = some job.template.templateId ∧ cb = coinbase.consensusEncode ∧
      (shareHeader share tip job).merkleRoot =
        merkleRootFromPath P.sha256d (coinbase.computeTxid P.sha256d) job.template.merklePath ∧
      ((shareHeader share tip job).blockHash P.sha256d).toTarget ≤ P.fromCompact tip.nbits := by
  have h₀ : s₀.jobStore.AllJobs (·.FromFactory P.sha256d) := by
    rw [(new_eq_ok hnew).2.2.2.1]; exact JobStore.allJobs_empty
  have hall := runOps_invariant_of_step
    (fun _ _ _ hs h => (ChannelOp.run_jobStep h).allJobs_fromFactory hs) h₀ hrun
  rcases validateShare_cases hfound with ⟨-, _, he⟩ | ⟨job, tip, -, hjob, htip, hcredit⟩
  · cases he
  · dsimp only at hcredit
    rcases hcredit with ⟨hnet, hr, -⟩ | ⟨-, -, -, b, -, -, hr⟩
    · cases hr
      exact ⟨job, tip, hjob, htip, rfl, congrArg _ job.blockCoinbase_eq_coinbase,
        hall.resolveJob hjob, hnet⟩
    · cases b <;> cases hr

/-- A share of the job `on_new_template` built from `T`, `O` and the extranonce prefix of the
channel at that moment, or of its activation, is a found block only with the coinbase the factory
built then: in every later state, whatever the channel's prefix has become. -/
theorem blockFound_coinbase_of_templateJob {P : Primitives} {s₁ s s' : StandardChannel}
    {T : NewTemplate} {O : List TxOut} {J : StandardJob} {share : SubmitSharesStandard}
    {tid : Option UInt64} {cb : List UInt8}
    (hjob : s₁.templateJob P T O = some J)
    (hshare : resolveJob s.jobStore share.jobId = some J ∨
      ∃ t, resolveJob s.jobStore share.jobId = some (J.activate t))
    (hfound : s.validateShare P share = some (.ok (.blockFound tid cb), s')) :
    let coinbase := JobFactory.coinbase T s₁.extranoncePrefix J.coinbaseOutputs
    (∃ templateOutputs, J.coinbaseOutputs = O ++ templateOutputs) ∧
    tid = some T.templateId ∧ cb = coinbase.consensusEncode ∧
    ∃ tip, s.chainTip = some tip ∧
      (shareHeader share tip J).merkleRoot =
        merkleRootFromPath P.sha256d (coinbase.computeTxid P.sha256d) T.merklePath ∧
      ((shareHeader share tip J).blockHash P.sha256d).toTarget ≤ P.fromCompact tip.nbits := by
  obtain ⟨_, _, hcall, -⟩ := templateJob_eq_some hjob
  obtain ⟨-, hT, hP, -, hO, hff⟩ := (JobFactory.newStandardJob_spec hcall).2 J rfl
  subst hT
  rcases validateShare_cases hfound with ⟨-, _, he⟩ | ⟨job, tip, -, hres, htip, hcredit⟩
  · cases he
  dsimp only at hcredit ⊢
  rcases hcredit with ⟨hnet, hr, -⟩ | ⟨-, -, -, b, -, -, hr⟩
  · cases hr
    rw [← hP]
    rcases hshare with h | ⟨t, h⟩ <;> rw [hres] at h <;> cases h <;>
      exact ⟨hO, rfl, congrArg _ (StandardJob.blockCoinbase_eq_coinbase _), tip, htip, hff,
        hnet⟩
  · cases b <;> cases hr

theorem blockFound_coinbase_of_templateJob_activated :
    ∃ s₀ s s' J cb,
      new .everyShareABlock 1 sampleExtranoncePrefix maxTarget 10.0 100 1.0 JobStore.empty =
        .ok s₀ ∧
      s₀.templateJob .everyShareABlock (sampleTemplate 1 true) sampleRewardOutputs = some J ∧
      runOps .everyShareABlock s₀ activatedJobRun = some s ∧
      (resolveJob s.jobStore sampleShare.jobId = some J ∨
        ∃ t, resolveJob s.jobStore sampleShare.jobId = some (J.activate t)) ∧
      s.validateShare .everyShareABlock sampleShare = some (.ok (.blockFound (some 1) cb), s') ∧
      let coinbase :=
        JobFactory.coinbase (sampleTemplate 1 true) s₀.extranoncePrefix J.coinbaseOutputs
      (∃ templateOutputs, J.coinbaseOutputs = sampleRewardOutputs ++ templateOutputs) ∧
      some 1 = some (sampleTemplate 1 true).templateId ∧ cb = coinbase.consensusEncode ∧
      ∃ tip, s.chainTip = some tip ∧
        (shareHeader sampleShare tip J).merkleRoot =
          merkleRootFromPath Primitives.everyShareABlock.sha256d
            (coinbase.computeTxid Primitives.everyShareABlock.sha256d)
            (sampleTemplate 1 true).merklePath ∧
        ((shareHeader sampleShare tip J).blockHash Primitives.everyShareABlock.sha256d).toTarget ≤
          Primitives.everyShareABlock.fromCompact tip.nbits := by
  refine ⟨_, _, _, _, _, rfl, rfl, rfl, .inr ⟨1000, rfl⟩, rfl, ?_⟩
  exact blockFound_coinbase_of_templateJob rfl (.inr ⟨1000, rfl⟩) rfl

end StratumV2
