import StratumV2.JobStore
import StratumV2.ShareAccounting

/-!
# Stratum V2: the standard channel

`StandardChannel` as a mining server sees it (`channels-sv2/src/server/standard.rs`), with its
constructor and the operations that change its configuration, its jobs and its chain tip.
Share validation is in `StratumV2.ValidateShare`.

A call of a `&mut self` method that returns `Result<(), E>` is a function returning the result
together with the channel after the call, so that a call that fails after a change can be told
from one that changes nothing.

The functions the channel borrows are the fields of `Primitives`: double SHA-256 and
`Target::from_compact` from `bitcoin`, and `hash_rate_to_target` and `target_to_difficulty`
from `target.rs`, which is not among the sources (both compute in floating point).  The channel
stores its `f32` hashrates as `Float`, into which `f32` widens exactly.
-/

namespace StratumV2

/-- The functions the channel takes from its dependencies. -/
structure Primitives where
  sha256d : List UInt8 → Hash32
  fromCompact : UInt32 → Target
  hashRateToTarget : Float → Float → Option Target
  targetToDifficulty : Target → Float

/-- `mining_sv2::MAX_EXTRANONCE_LEN`. -/
def maxExtranonceLen : Nat := 32

/-- `StandardChannelError`. -/
inductive StandardChannelError
  | invalidNominalHashrate
  | requestedMaxTargetOutOfRange
  | newExtranoncePrefixTooLarge
  | chainTipNotSet
  | templateIdNotFound
  | jobFactoryError (e : JobFactoryError)
deriving DecidableEq, Repr

/-- `StandardChannel`, without `user_identity`, which no operation reads. -/
structure StandardChannel where
  channelId : UInt32
  extranoncePrefix : List UInt8
  requestedMaxTarget : Target
  target : Target
  nominalHashrate : Float
  shareAccounting : ShareAccounting
  expectedSharePerMinute : Float
  jobStore : JobStore
  jobFactory : JobFactory
  chainTip : Option ChainTip

namespace StandardChannel

variable (P : Primitives)

/-- `StandardChannel::new`. -/
def new (channelId : UInt32) (extranoncePrefix : List UInt8) (requestedMaxTarget : Target)
    (nominalHashrate : Float) (shareBatchSize : Nat) (expectedSharePerMinute : Float)
    (jobStore : JobStore) : Except StandardChannelError StandardChannel :=
  match P.hashRateToTarget nominalHashrate expectedSharePerMinute with
  | none => .error .invalidNominalHashrate
  | some target =>
      if target > requestedMaxTarget then .error .requestedMaxTargetOutOfRange
      else
        .ok { channelId
              extranoncePrefix
              requestedMaxTarget
              target
              nominalHashrate
              shareAccounting := ShareAccounting.new shareBatchSize
              expectedSharePerMinute
              jobFactory := JobFactory.new
              chainTip := none
              jobStore }

/-- `StandardChannel::set_extranonce_prefix`. -/
def setExtranoncePrefix (self : StandardChannel) (extranoncePrefix : List UInt8) :
    Except StandardChannelError Unit × StandardChannel :=
  if extranoncePrefix.length > maxExtranonceLen then (.error .newExtranoncePrefixTooLarge, self)
  else (.ok (), { self with extranoncePrefix })

/-- `StandardChannel::set_target`. -/
def setTarget (self : StandardChannel) (target : Target) : StandardChannel :=
  { self with target }

/-- `StandardChannel::set_nominal_hashrate`. -/
def setNominalHashrate (self : StandardChannel) (nominalHashrate : Float) : StandardChannel :=
  { self with nominalHashrate }

/-- `StandardChannel::update_channel`: the new target is computed and checked before anything
changes; a missing `requested_max_target` keeps the cached one. -/
def updateChannel (self : StandardChannel) (nominalHashrate : Float)
    (requestedMaxTarget : Option Target) : Except StandardChannelError Unit × StandardChannel :=
  match P.hashRateToTarget nominalHashrate self.expectedSharePerMinute with
  | none => (.error .invalidNominalHashrate, self)
  | some newTarget =>
      let requestedMaxTarget := requestedMaxTarget.getD self.requestedMaxTarget
      if newTarget > requestedMaxTarget then (.error .requestedMaxTargetOutOfRange, self)
      else (.ok (), { self with target := newTarget, nominalHashrate, requestedMaxTarget })

/-- The job factory call of both branches of `on_new_template`: a job for `chainTip`, the
channel's id and its current extranonce prefix, which `install` puts into the job store.  The
factory keeps the job id it took even when it fails. -/
def createJob (self : StandardChannel) (chainTip : Option ChainTip) (template : NewTemplate)
    (coinbaseRewardOutputs : List TxOut) (install : StandardJob → JobStore) :
    Except StandardChannelError Unit × StandardChannel :=
  match self.jobFactory.newStandardJob P.sha256d self.channelId chainTip self.extranoncePrefix
      template coinbaseRewardOutputs with
  | (.error e, jobFactory) => (.error (.jobFactoryError e), { self with jobFactory })
  | (.ok job, jobFactory) => (.ok (), { self with jobFactory, jobStore := install job })

/-- `StandardChannel::on_new_template`: a future template gives a future job; any other
template needs a chain tip and gives the new active job. -/
def onNewTemplate (self : StandardChannel) (template : NewTemplate)
    (coinbaseRewardOutputs : List TxOut) : Except StandardChannelError Unit × StandardChannel :=
  if template.futureTemplate then
    self.createJob P none template coinbaseRewardOutputs
      (self.jobStore.addFutureJob template.templateId)
  else
    match self.chainTip with
    | none => (.error .chainTipNotSet, self)
    | some chainTip =>
        self.createJob P (some chainTip) template coinbaseRewardOutputs self.jobStore.addActiveJob

/-- The job `on_new_template` builds (its `new_job`) when the factory succeeds: with no chain
tip for a future template, and with the channel's chain tip otherwise. -/
def templateJob (self : StandardChannel) (template : NewTemplate)
    (coinbaseRewardOutputs : List TxOut) : Option StandardJob :=
  let build (chainTip : Option ChainTip) :=
    (self.jobFactory.newStandardJob P.sha256d self.channelId chainTip self.extranoncePrefix
      template coinbaseRewardOutputs).1.toOption
  if template.futureTemplate then build none
  else self.chainTip.bind fun chainTip => build (some chainTip)

/-- `StandardChannel::on_set_new_prev_hash`.  It fails only when there is no future job at all;
otherwise the outcome of `activate_future_job` is discarded (a template that is not pending
leaves the jobs as they were) and the chain tip is replaced. -/
def onSetNewPrevHash (self : StandardChannel) (setNewPrevHash : SetNewPrevHash) :
    Except StandardChannelError Unit × StandardChannel :=
  if self.jobStore.futureJobs.entries.isEmpty then (.error .templateIdNotFound, self)
  else
    let jobStore :=
      (self.jobStore.activateFutureJob setNewPrevHash.templateId
        setNewPrevHash.headerTimestamp).getD self.jobStore
    (.ok (),
      { self with
        jobStore
        chainTip :=
          some
            ⟨setNewPrevHash.prevHash, setNewPrevHash.nBits, setNewPrevHash.headerTimestamp⟩ })

variable {P} {s s' : StandardChannel} {r : Except StandardChannelError Unit}

/-- What `new` builds: a channel whose target, computed from the hashrate, is within the
requested maximum, with the given prefix and job store, no chain tip, a fresh job factory and
fresh share accounting. -/
theorem new_eq_ok {channelId : UInt32} {extranoncePrefix : List UInt8}
    {requestedMaxTarget : Target} {hashrate : Float} {shareBatchSize : Nat}
    {expectedSharePerMinute : Float} {jobStore : JobStore}
    (h : new P channelId extranoncePrefix requestedMaxTarget hashrate shareBatchSize
      expectedSharePerMinute jobStore = .ok s) :
    s.target ≤ s.requestedMaxTarget ∧ s.requestedMaxTarget = requestedMaxTarget ∧
      s.extranoncePrefix = extranoncePrefix ∧ s.jobStore = jobStore ∧
      s.jobFactory = JobFactory.new ∧ s.chainTip = none ∧
      s.shareAccounting = ShareAccounting.new shareBatchSize := by
  unfold new at h
  split at h
  · cases h
  · split_ifs at h with ht
    cases h
    exact ⟨Fin.not_lt.mp ht, rfl, rfl, rfl, rfl, rfl, rfl⟩

theorem setExtranoncePrefix_cases {p : List UInt8} (h : s.setExtranoncePrefix p = (r, s')) :
    (maxExtranonceLen < p.length ∧ r = .error .newExtranoncePrefixTooLarge ∧ s' = s) ∨
      (p.length ≤ maxExtranonceLen ∧ r = .ok () ∧ s' = { s with extranoncePrefix := p }) := by
  unfold setExtranoncePrefix at h
  split_ifs at h with hp <;> cases h
  · exact .inl ⟨hp, rfl, rfl⟩
  · exact .inr ⟨Nat.le_of_not_lt hp, rfl, rfl⟩

theorem updateChannel_cases {hashrate : Float} {m : Option Target}
    (h : s.updateChannel P hashrate m = (r, s')) :
    (∃ e, r = .error e ∧ s' = s) ∨
      ∃ t, P.hashRateToTarget hashrate s.expectedSharePerMinute = some t ∧
        t ≤ m.getD s.requestedMaxTarget ∧ r = .ok () ∧
        s' = { s with target := t, nominalHashrate := hashrate,
                      requestedMaxTarget := m.getD s.requestedMaxTarget } := by
  unfold updateChannel at h
  split at h
  · cases h; exact .inl ⟨_, rfl, rfl⟩
  · dsimp only at h
    split_ifs at h with ht <;> cases h
    · exact .inl ⟨_, rfl, rfl⟩
    · exact .inr ⟨_, ‹_›, Fin.not_lt.mp ht, rfl, rfl⟩

/-- Every outcome of `on_new_template`: a failure that changes at most the job factory, which
keeps the id it took; a future job built with no chain tip; or an active job built under the
channel's chain tip. -/
theorem onNewTemplate_cases {t : NewTemplate} {o : List TxOut}
    (h : s.onNewTemplate P t o = (r, s')) :
    (∃ e factory, r = .error e ∧ s' = { s with jobFactory := factory } ∧
      (factory = s.jobFactory ∨ ∃ tip e', s.jobFactory.newStandardJob P.sha256d s.channelId tip
        s.extranoncePrefix t o = (.error e', factory))) ∨
    (∃ job factory, t.futureTemplate = true ∧
      s.jobFactory.newStandardJob P.sha256d s.channelId none s.extranoncePrefix t o =
        (.ok job, factory) ∧ r = .ok () ∧
      s' = { s with
        jobFactory := factory
        jobStore := s.jobStore.addFutureJob t.templateId job }) ∨
    (∃ job factory tip, t.futureTemplate = false ∧ s.chainTip = some tip ∧
      s.jobFactory.newStandardJob P.sha256d s.channelId (some tip) s.extranoncePrefix t o =
        (.ok job, factory) ∧ r = .ok () ∧
      s' = { s with jobFactory := factory, jobStore := s.jobStore.addActiveJob job }) := by
  unfold onNewTemplate createJob at h
  split_ifs at h with hf
  · split at h <;> cases h
    · exact .inl ⟨_, _, rfl, rfl, .inr ⟨_, _, ‹_›⟩⟩
    · exact .inr (.inl ⟨_, _, hf, ‹_›, rfl, rfl⟩)
  · rw [Bool.not_eq_true] at hf
    split at h
    · cases h; exact .inl ⟨_, _, rfl, rfl, .inl rfl⟩
    · split at h <;> cases h
      · exact .inl ⟨_, _, rfl, rfl, .inr ⟨_, _, ‹_›⟩⟩
      · exact .inr (.inr ⟨_, _, _, hf, ‹_›, ‹_›, rfl, rfl⟩)

theorem onSetNewPrevHash_cases {m : SetNewPrevHash} (h : s.onSetNewPrevHash m = (r, s')) :
    (s.jobStore.futureJobs.entries = [] ∧ r = .error .templateIdNotFound ∧ s' = s) ∨
      (s.jobStore.futureJobs.entries ≠ [] ∧ r = .ok () ∧
        s' = { s with
          jobStore := (s.jobStore.activateFutureJob m.templateId m.headerTimestamp).getD s.jobStore
          chainTip := some ⟨m.prevHash, m.nBits, m.headerTimestamp⟩ }) := by
  unfold onSetNewPrevHash at h
  dsimp only at h
  split_ifs at h with he <;> cases h
  · exact .inl ⟨List.isEmpty_iff.mp he, rfl, rfl⟩
  · exact .inr ⟨fun e => he (List.isEmpty_iff.mpr e), rfl, rfl⟩

/-- A `SetNewPrevHash` naming a pending template whose job the store holds activates that job
and replaces the chain tip. -/
theorem onSetNewPrevHash_of_pending {m : SetNewPrevHash} {jobId : UInt32} {job : StandardJob}
    (ht : s.jobStore.futureTemplateToJobId.lookup m.templateId = some jobId)
    (hj : s.jobStore.futureJobs.lookup jobId = some job) :
    s.onSetNewPrevHash m =
      (.ok (), { s with
        jobStore :=
          { futureTemplateToJobId := s.jobStore.futureTemplateToJobId.erase m.templateId
            futureJobs := s.jobStore.futureJobs.erase jobId
            activeJob := some (job.activate m.headerTimestamp)
            pastJobs := ∅
            staleJobs := s.jobStore.pastAndActive }
        chainTip := some ⟨m.prevHash, m.nBits, m.headerTimestamp⟩ }) := by
  have hne : s.jobStore.futureJobs.entries ≠ [] := fun he => by
    simp [AList.lookup, he] at hj
  simp [onSetNewPrevHash, JobStore.activateFutureJob, ht, hj, hne]

/-- The job `templateJob` names is the factory's, and `on_new_template` installs it. -/
theorem templateJob_eq_some {t : NewTemplate} {o : List TxOut} {job : StandardJob}
    (h : s.templateJob P t o = some job) :
    ∃ tip factory,
      s.jobFactory.newStandardJob P.sha256d s.channelId tip s.extranoncePrefix t o =
        (.ok job, factory) ∧
      s.onNewTemplate P t o =
        (.ok (), { s with
          jobFactory := factory
          jobStore :=
            if t.futureTemplate then s.jobStore.addFutureJob t.templateId job
            else s.jobStore.addActiveJob job }) := by
  unfold templateJob at h
  dsimp only at h
  split_ifs at h with hf
  · rcases hc : s.jobFactory.newStandardJob P.sha256d s.channelId none s.extranoncePrefix t o
      with ⟨_ | j, f⟩ <;> rw [hc] at h <;> cases h
    exact ⟨none, f, hc, by simp [onNewTemplate, createJob, hf, hc]⟩
  · cases htip : s.chainTip with
    | none => simp [htip] at h
    | some tip =>
        rw [htip, Option.some_bind] at h
        rcases hc : s.jobFactory.newStandardJob P.sha256d s.channelId (some tip)
          s.extranoncePrefix t o with ⟨_ | j, f⟩ <;> rw [hc] at h <;> cases h
        exact ⟨some tip, f, hc, by simp [onNewTemplate, createJob, hf, htip, hc]⟩

/-! Which fields each call can change. -/

theorem setExtranoncePrefix_shape (p : List UInt8) :
    ∃ q, (s.setExtranoncePrefix p).2 = { s with extranoncePrefix := q } := by
  unfold setExtranoncePrefix
  split_ifs
  · exact ⟨s.extranoncePrefix, rfl⟩
  · exact ⟨p, rfl⟩

theorem updateChannel_shape (hashrate : Float) (m : Option Target) :
    ∃ target nominalHashrate requestedMaxTarget,
      (s.updateChannel P hashrate m).2 =
        { s with target, nominalHashrate, requestedMaxTarget } := by
  rcases updateChannel_cases (Prod.mk.eta (p := s.updateChannel P hashrate m)).symm with
    ⟨_, -, h⟩ | ⟨t, -, -, -, h⟩ <;> rw [h]
  · exact ⟨_, _, _, rfl⟩
  · exact ⟨_, _, _, rfl⟩

theorem onNewTemplate_shape (t : NewTemplate) (o : List TxOut) :
    ∃ jobFactory jobStore, (s.onNewTemplate P t o).2 = { s with jobFactory, jobStore } := by
  rcases onNewTemplate_cases (Prod.mk.eta (p := s.onNewTemplate P t o)).symm with
    ⟨_, _, -, h, -⟩ | ⟨_, _, -, -, -, h⟩ | ⟨_, _, _, -, -, -, -, h⟩
  · exact ⟨_, s.jobStore, h⟩
  · exact ⟨_, _, h⟩
  · exact ⟨_, _, h⟩

theorem onSetNewPrevHash_shape (m : SetNewPrevHash) :
    ∃ jobStore chainTip, (s.onSetNewPrevHash m).2 = { s with jobStore, chainTip } := by
  rcases onSetNewPrevHash_cases (Prod.mk.eta (p := s.onSetNewPrevHash m)).symm with
    ⟨-, -, h⟩ | ⟨-, -, h⟩ <;> rw [h]
  · exact ⟨_, _, rfl⟩
  · exact ⟨_, _, rfl⟩

end StandardChannel

end StratumV2
