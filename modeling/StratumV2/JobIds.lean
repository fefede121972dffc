import StratumV2.Lifecycle

/-!
# Stratum V2: job ids

The job factory numbers jobs from its counter `last_job_id`, a `u32` that it increments for
every job it is asked for; the store moves jobs between its four collections without
renumbering them.  `JobStore.JobIdsWF store n` says that the ids of the active job and the keys
of the future, past and stale maps are pairwise distinct and at most `n`, that every map holds
each job under its own id, and that `future_template_to_job_id` maps distinct templates to
distinct future jobs.  A new job gets the id `n + 1`, which no job holds; activation only
moves and drops ids.

The counter wraps after `2 ^ 32` job ids, after which the factory hands out the ids of live
jobs again.

**Results.**
* `jobIds_disjoint`: along every run from a channel built by `new` over an empty job store
  with fewer than `2 ^ 32` calls of `on_new_template`, the job ids of the four collections are
  pairwise disjoint, every map key is the id of its job, and every value of
  `future_template_to_job_id` names a future job.
* `onSetNewPrevHash_activates_pending`: along the same runs, a `SetNewPrevHash` naming a
  pending template succeeds and activates the template's job.
* `jobId_reused_after_counter_wraps`: after `2 ^ 32` job ids the active job and a new future
  job share an id.
-/

namespace StratumV2

namespace JobStore

/-- The ids of the active job and the keys of the future, past and stale maps. -/
def jobIds (store : JobStore) : List UInt32 :=
  (store.activeJob.map StandardJob.jobId).toList ++ store.futureJobs.keys ++
    store.pastJobs.keys ++ store.staleJobs.keys

/-- The job ids of the store are distinct and at most `lastJobId`, each map holds its jobs
under their ids, and the template map points distinct templates at distinct future jobs. -/
structure JobIdsWF (store : JobStore) (lastJobId : Nat) : Prop where
  nodup : store.jobIds.Nodup
  le_lastJobId : ∀ k ∈ store.jobIds, k.toNat ≤ lastJobId
  futureKey : ∀ k job, store.futureJobs.lookup k = some job → k = job.jobId
  pastKey : ∀ k job, store.pastJobs.lookup k = some job → k = job.jobId
  staleKey : ∀ k job, store.staleJobs.lookup k = some job → k = job.jobId
  templateFuture : ∀ t k, store.futureTemplateToJobId.lookup t = some k → k ∈ store.futureJobs
  templateInj : ∀ t t' k, store.futureTemplateToJobId.lookup t = some k →
    store.futureTemplateToJobId.lookup t' = some k → t = t'

theorem jobIdsWF_empty : empty.JobIdsWF 0 :=
  ⟨List.nodup_nil, fun _ h => (nomatch h), fun _ _ h => (nomatch h), fun _ _ h => (nomatch h),
    fun _ _ h => (nomatch h), fun _ _ h => (nomatch h), fun _ _ _ h => (nomatch h)⟩

section Preservation

variable {store : JobStore} {n : Nat} {job : StandardJob}

theorem JobIdsWF.mono (hs : store.JobIdsWF n) {m : Nat} (hm : n ≤ m) : store.JobIdsWF m :=
  { hs with le_lastJobId := fun k hk => (hs.le_lastJobId k hk).trans hm }

/-- An id above the counter is held by no job. -/
theorem JobIdsWF.not_mem (hs : store.JobIdsWF n) (hid : job.jobId.toNat = n + 1) :
    job.jobId ∉ store.jobIds := fun h => by
  have := hs.le_lastJobId _ h; omega

theorem keys_insert_of_not_mem {m : JobMap} {k : UInt32} (hk : k ∉ m) (v : StandardJob) :
    (m.insert k v).keys = k :: m.keys := by
  rw [AList.keys_insert, List.erase_of_not_mem (AList.mem_keys.not.mp hk)]

/-- The ids after a step that adds the fresh id `k` and keeps every other id. -/
theorem JobIdsWF.cons (hs : store.JobIdsWF n) {k : UInt32} (hk : k.toNat = n + 1)
    (ids : List UInt32) (hperm : ids.Perm (k :: store.jobIds)) :
    ids.Nodup ∧ ∀ k' ∈ ids, k'.toNat ≤ n + 1 := by
  refine ⟨hperm.nodup_iff.mpr (List.nodup_cons.mpr ⟨fun h => ?_, hs.nodup⟩),
    fun k' hk' => ?_⟩
  · have := hs.le_lastJobId _ h; omega
  · rcases List.mem_cons.mp (hperm.mem_iff.mp hk') with rfl | h
    · omega
    · exact (hs.le_lastJobId _ h).trans (Nat.le_succ n)

theorem JobIdsWF.addFutureJob (hs : store.JobIdsWF n) (hid : job.jobId.toNat = n + 1)
    (templateId : UInt64) : (store.addFutureJob templateId job).JobIdsWF (n + 1) := by
  have hfresh := hs.not_mem hid
  have hnf : job.jobId ∉ store.futureJobs := fun h =>
    hfresh (by simp [jobIds, AList.mem_keys.mp h])
  obtain ⟨hnodup, hle⟩ := hs.cons hid (store.addFutureJob templateId job).jobIds (by
    simp only [JobStore.addFutureJob, jobIds, keys_insert_of_not_mem hnf, List.append_assoc,
      List.cons_append]
    exact List.perm_middle)
  refine ⟨hnodup, hle, fun k j h => ?_, hs.pastKey, hs.staleKey, fun t k h => ?_,
    fun t t' k h h' => ?_⟩
  · rcases lookup_insert_some h with ⟨rfl, rfl⟩ | h
    · rfl
    · exact hs.futureKey k j h
  · rcases lookup_insert_some h with ⟨-, rfl⟩ | h
    · exact (AList.mem_insert _).mpr (.inl rfl)
    · exact (AList.mem_insert _).mpr (.inr (hs.templateFuture t k h))
  · rcases lookup_insert_some h with ⟨rfl, rfl⟩ | h₁ <;>
      rcases lookup_insert_some h' with ⟨rfl, e⟩ | h₂
    · rfl
    · exact absurd (hs.templateFuture _ _ h₂) hnf
    · exact absurd (e ▸ hs.templateFuture _ _ h₁) hnf
    · exact hs.templateInj t t' k h₁ h₂

/-- The active job's id is not a past key, so moving it to the past jobs adds one key. -/
theorem JobIdsWF.keys_pastAndActive (hs : store.JobIdsWF n) :
    store.pastAndActive.keys =
      (store.activeJob.map StandardJob.jobId).toList ++ store.pastJobs.keys := by
  unfold pastAndActive
  split
  · rename_i active hactive
    have hnodup := hs.nodup
    simp only [jobIds, hactive, Option.map_some', Option.toList_some, List.singleton_append,
      List.cons_append, List.nodup_cons, List.mem_append, not_or] at hnodup
    rw [keys_insert_of_not_mem (AList.mem_keys.not.mpr hnodup.1.1.2), hactive]
    rfl
  · rename_i hactive
    simp [hactive]

theorem JobIdsWF.addActiveJob (hs : store.JobIdsWF n) (hid : job.jobId.toNat = n + 1) :
    (store.addActiveJob job).JobIdsWF (n + 1) := by
  obtain ⟨hnodup, hle⟩ := hs.cons hid (store.addActiveJob job).jobIds (by
    simp only [JobStore.addActiveJob, jobIds, hs.keys_pastAndActive, Option.map_some',
      Option.toList_some, List.singleton_append, List.cons_append, List.nil_append,
      List.append_assoc]
    exact .cons _ (List.perm_append_comm_assoc _ _ _))
  refine ⟨hnodup, hle, hs.futureKey, fun k j h => ?_, hs.staleKey, hs.templateFuture,
    hs.templateInj⟩
  rcases lookup_pastAndActive h with ⟨-, rfl⟩ | h
  · rfl
  · exact hs.pastKey k j h

open scoped List in
/-- Activation keeps the ids of the future, active and past jobs and drops the stale ones. -/
theorem JobIdsWF.jobIds_activate (hs : store.JobIdsWF n) {k : UInt32}
    (hjob : store.futureJobs.lookup k = some job) (templateId : UInt64)
    (headerTimestamp : UInt32) :
    ({ futureTemplateToJobId := store.futureTemplateToJobId.erase templateId
       futureJobs := store.futureJobs.erase k
       activeJob := some (job.activate headerTimestamp)
       pastJobs := ∅
       staleJobs := store.pastAndActive } : JobStore).jobIds ++ store.staleJobs.keys ~
      store.jobIds := by
  have hmem : k ∈ store.futureJobs.keys :=
    AList.mem_keys.mp (AList.lookup_isSome.mp (by simp [hjob]))
  set A := (store.activeJob.map StandardJob.jobId).toList
  calc _ = k :: (store.futureJobs.keys.erase k ++ (A ++ store.pastJobs.keys)) ++
          store.staleJobs.keys := by
        simp [jobIds, AList.keys_erase, hs.keys_pastAndActive, hs.futureKey k job hjob, A]
    _ ~ k :: (A ++ (store.futureJobs.keys.erase k ++ (store.pastJobs.keys ++
          store.staleJobs.keys))) := by
        simp only [List.cons_append, List.append_assoc]
        exact .cons _ (List.perm_append_comm_assoc _ _ _)
    _ ~ A ++ (k :: store.futureJobs.keys.erase k ++ (store.pastJobs.keys ++
          store.staleJobs.keys)) := List.perm_middle.symm
    _ ~ store.jobIds := by
        simp only [jobIds, List.append_assoc]
        exact ((List.perm_cons_erase hmem).symm.append_right _).append_left _

theorem JobIdsWF.activateFutureJob (hs : store.JobIdsWF n) {templateId : UInt64}
    {headerTimestamp : UInt32} {store' : JobStore}
    (h : store.activateFutureJob templateId headerTimestamp = some store') :
    store'.JobIdsWF n := by
  obtain ⟨k, job, hk, hjob, rfl⟩ := activateFutureJob_eq_some h
  have hperm := hs.jobIds_activate hjob templateId headerTimestamp
  refine ⟨(hperm.nodup_iff.mpr hs.nodup).of_append_left,
    fun k' hk' => hs.le_lastJobId k' (hperm.mem_iff.mp (List.mem_append_left _ hk')),
    fun k' j h => hs.futureKey k' j (lookup_erase_some h).2, fun _ _ h => (nomatch h),
    fun k' j h => ?_, fun t k' h => ?_, fun t t' k' h h' => ?_⟩
  · rcases lookup_pastAndActive h with ⟨-, rfl⟩ | h
    · rfl
    · exact hs.pastKey k' j h
  · obtain ⟨ht, h⟩ := lookup_erase_some h
    refine AList.mem_erase.mpr ⟨fun e => ht ?_, hs.templateFuture t k' h⟩
    exact hs.templateInj t templateId k' h (e ▸ hk)
  · exact hs.templateInj t t' k' (lookup_erase_some h).2 (lookup_erase_some h').2

end Preservation

end JobStore

open StandardChannel

/-- On success the job's id is the factory's new counter. -/
theorem JobFactory.newStandardJob_jobId {sha256d : List UInt8 → Hash32} {self : JobFactory}
    {channelId : UInt32} {chainTip : Option ChainTip} {extranoncePrefix : List UInt8}
    {template : NewTemplate} {o : List TxOut} {job : StandardJob} {factory : JobFactory}
    (h : self.newStandardJob sha256d channelId chainTip extranoncePrefix template o =
      (.ok job, factory)) : job.jobId = factory.lastJobId := by
  obtain ⟨hf, hjob⟩ := JobFactory.newStandardJob_spec h
  rw [(hjob job rfl).1, hf]

/-- Below `2 ^ 32`, the factory's counter grows by one as a number. -/
theorem JobFactory.newStandardJob_toNat {sha256d : List UInt8 → Hash32} {self : JobFactory}
    {channelId : UInt32} {chainTip : Option ChainTip} {extranoncePrefix : List UInt8}
    {template : NewTemplate} {o : List TxOut} {r : Except JobFactoryError StandardJob}
    {factory : JobFactory}
    (h : self.newStandardJob sha256d channelId chainTip extranoncePrefix template o =
      (r, factory))
    (hroom : self.lastJobId.toNat + 1 < 2 ^ 32 ∨ factory = self) :
    factory.lastJobId.toNat = self.lastJobId.toNat + 1 := by
  have hf : factory.lastJobId.toNat = (self.lastJobId.toNat + 1) % 2 ^ 32 := by
    rw [(JobFactory.newStandardJob_spec h).1]; rfl
  have hlt : self.lastJobId.toNat < 2 ^ 32 := self.lastJobId.toNat_lt_size
  rcases hroom with hroom | rfl <;> omega

/-- Every call keeps the job ids well formed and takes at most one job id, while the counter
does not wrap. -/
theorem JobStep.jobIdsWF {P : Primitives} {s s' : StandardChannel} (h : JobStep P s s')
    (hs : s.jobStore.JobIdsWF s.jobFactory.lastJobId.toNat)
    (hroom : s.jobFactory.lastJobId.toNat + 1 < 2 ^ 32 ∨ s'.jobFactory = s.jobFactory) :
    s'.jobStore.JobIdsWF s'.jobFactory.lastJobId.toNat ∧
      s'.jobFactory.lastJobId.toNat ≤ s.jobFactory.lastJobId.toNat + 1 := by
  cases h with
  | frame hstore _ hfactory => rw [hstore, hfactory]; exact ⟨hs, by omega⟩
  | failedJob _ _ _ _ hstore _ hfactory =>
      rw [hstore, JobFactory.newStandardJob_toNat hfactory hroom]
      exact ⟨hs.mono (Nat.le_succ _), le_rfl⟩
  | futureJob t _ job _ hfactory hstore =>
      have hc := JobFactory.newStandardJob_toNat hfactory hroom
      rw [hstore, hc]
      exact ⟨hs.addFutureJob (by rw [JobFactory.newStandardJob_jobId hfactory, hc]) t.templateId,
        le_rfl⟩
  | activeJob _ _ _ job _ _ hfactory hstore =>
      have hc := JobFactory.newStandardJob_toNat hfactory hroom
      rw [hstore, hc]
      exact ⟨hs.addActiveJob (by rw [JobFactory.newStandardJob_jobId hfactory, hc]), le_rfl⟩
  | newPrevHash m _ hfactory _ hstore =>
      rw [hstore, hfactory]
      refine ⟨?_, by omega⟩
      cases ha : s.jobStore.activateFutureJob m.templateId m.headerTimestamp with
      | none => exact hs
      | some _ => exact hs.activateFutureJob ha

theorem runOps_jobIdsWF {P : Primitives} {s s' : StandardChannel} {ops : List ChannelOp}
    (hs : s.jobStore.JobIdsWF s.jobFactory.lastJobId.toNat)
    (hbudget : s.jobFactory.lastJobId.toNat + ops.countP ChannelOp.isOnNewTemplate < 2 ^ 32)
    (h : runOps P s ops = some s') : s'.jobStore.JobIdsWF s'.jobFactory.lastJobId.toNat := by
  induction ops generalizing s with
  | nil => cases h; exact hs
  | cons op ops ih =>
      obtain ⟨s₁, h₁, h₂⟩ := runOps_cons.mp h
      have hle : ops.countP ChannelOp.isOnNewTemplate ≤
          (op :: ops).countP ChannelOp.isOnNewTemplate :=
        (List.sublist_cons_self op ops).countP_le _
      cases hop : op.isOnNewTemplate
      · have hf := (ChannelOp.run_frame h₁).1 hop
        refine ih ((ChannelOp.run_jobStep h₁).jobIdsWF hs (.inr hf)).1 ?_ h₂
        rw [hf]; omega
      · rw [List.countP_cons, hop, if_pos rfl] at hbudget
        have hroom : s.jobFactory.lastJobId.toNat + 1 < 2 ^ 32 := by omega
        obtain ⟨hs₁, hc⟩ := (ChannelOp.run_jobStep h₁).jobIdsWF hs (.inl hroom)
        exact ih hs₁ (by omega) h₂

/-- The job ids are well formed along every run from a channel built by `new` over an empty job
store with fewer than `2 ^ 32` calls of `on_new_template`. -/
theorem jobIdsWF_of_new {P : Primitives} {channelId : UInt32} {extranoncePrefix : List UInt8}
    {requestedMaxTarget : Target} {hashrate : Float} {shareBatchSize : Nat}
    {expectedSharePerMinute : Float} {s₀ s : StandardChannel} {ops : List ChannelOp}
    (hnew : new P channelId extranoncePrefix requestedMaxTarget hashrate shareBatchSize
      expectedSharePerMinute JobStore.empty = .ok s₀)
    (hops : ops.countP ChannelOp.isOnNewTemplate < 2 ^ 32) (hrun : runOps P s₀ ops = some s) :
    s.jobStore.JobIdsWF s.jobFactory.lastJobId.toNat := by
  obtain ⟨-, -, -, hstore, hfactory, -⟩ := new_eq_ok hnew
  exact runOps_jobIdsWF (by rw [hstore, hfactory]; exact JobStore.jobIdsWF_empty)
    (by rw [hfactory, show JobFactory.new.lastJobId.toNat = 0 from rfl, Nat.zero_add]; exact hops)
    hrun

theorem jobIds_disjoint {P : Primitives} {channelId : UInt32} {extranoncePrefix : List UInt8}
    {requestedMaxTarget : Target} {hashrate : Float} {shareBatchSize : Nat}
    {expectedSharePerMinute : Float} {s₀ s : StandardChannel} {ops : List ChannelOp}
    (hnew : new P channelId extranoncePrefix requestedMaxTarget hashrate shareBatchSize
      expectedSharePerMinute JobStore.empty = .ok s₀)
    (hops : ops.countP ChannelOp.isOnNewTemplate < 2 ^ 32) (hrun : runOps P s₀ ops = some s) :
    s.jobStore.jobIds.Nodup ∧
    (∀ k job, s.jobStore.futureJobs.lookup k = some job → k = job.jobId) ∧
    (∀ k job, s.jobStore.pastJobs.lookup k = some job → k = job.jobId) ∧
    (∀ k job, s.jobStore.staleJobs.lookup k = some job → k = job.jobId) ∧
    (∀ t k, s.jobStore.futureTemplateToJobId.lookup t = some k →
      k ∈ s.jobStore.futureJobs) :=
  let hs := jobIdsWF_of_new hnew hops hrun
  ⟨hs.nodup, hs.futureKey, hs.pastKey, hs.staleKey, hs.templateFuture⟩

/-- Along the same runs, a `SetNewPrevHash` naming a pending template activates its job: the
past jobs are cleared, the previous active and past jobs become the stale jobs, and the chain tip
is replaced. -/
theorem onSetNewPrevHash_activates_pending {P : Primitives} {channelId : UInt32}
    {extranoncePrefix : List UInt8} {requestedMaxTarget : Target} {hashrate : Float}
    {shareBatchSize : Nat} {expectedSharePerMinute : Float} {s₀ s : StandardChannel}
    {ops : List ChannelOp} {m : SetNewPrevHash} {jobId : UInt32}
    (hnew : new P channelId extranoncePrefix requestedMaxTarget hashrate shareBatchSize
      expectedSharePerMinute JobStore.empty = .ok s₀)
    (hops : ops.countP ChannelOp.isOnNewTemplate < 2 ^ 32) (hrun : runOps P s₀ ops = some s)
    (ht : s.jobStore.futureTemplateToJobId.lookup m.templateId = some jobId) :
    ∃ job, s.jobStore.futureJobs.lookup jobId = some job ∧
      s.onSetNewPrevHash m =
        (.ok (), { s with
          jobStore :=
            { futureTemplateToJobId := s.jobStore.futureTemplateToJobId.erase m.templateId
              futureJobs := s.jobStore.futureJobs.erase jobId
              activeJob := some (job.activate m.headerTimestamp)
              pastJobs := ∅
              staleJobs := s.jobStore.pastAndActive }
          chainTip := some ⟨m.prevHash, m.nBits, m.headerTimestamp⟩ }) := by
  have hmem := (jobIdsWF_of_new hnew hops hrun).templateFuture _ _ ht
  obtain ⟨job, hj⟩ := Option.isSome_iff_exists.mp (AList.lookup_isSome.mpr hmem)
  exact ⟨job, hj, onSetNewPrevHash_of_pending ht hj⟩

/-- A second template, not a future one, replaces the activated job. -/
def twoJobRun : List ChannelOp :=
  activatedJobRun ++ [.onNewTemplate (sampleTemplate 2 false) sampleRewardOutputs]

theorem jobIds_disjoint_of_twoJobRun :
    ∃ s₀ s,
      new .everyShareABlock 1 sampleExtranoncePrefix maxTarget 10.0 100 1.0 JobStore.empty =
        .ok s₀ ∧
      twoJobRun.countP ChannelOp.isOnNewTemplate < 2 ^ 32 ∧
      runOps .everyShareABlock s₀ twoJobRun = some s ∧
      s.jobStore.jobIds.Nodup ∧
      (∀ k job, s.jobStore.futureJobs.lookup k = some job → k = job.jobId) ∧
      (∀ k job, s.jobStore.pastJobs.lookup k = some job → k = job.jobId) ∧
      (∀ k job, s.jobStore.staleJobs.lookup k = some job → k = job.jobId) ∧
      (∀ t k, s.jobStore.futureTemplateToJobId.lookup t = some k →
        k ∈ s.jobStore.futureJobs) := by
  refine ⟨_, _, rfl, by decide, rfl, ?_⟩
  exact @jobIds_disjoint .everyShareABlock 1 sampleExtranoncePrefix maxTarget 10.0 100 1.0 _ _
    twoJobRun rfl (by decide) rfl

/-! ## The counter wraps -/

/-- A template whose reward outputs are worth more than it has left: the factory takes a job id
and fails. -/
def overflowTemplateOp : ChannelOp :=
  .onNewTemplate (sampleTemplate 3 true) [⟨5000000001, []⟩]

/-- The channel after a call that only takes a job id. -/
def takeJobId (s : StandardChannel) : StandardChannel :=
  { s with jobFactory := ⟨s.jobFactory.lastJobId + 1⟩ }

theorem runOps_replicate_overflowTemplateOp (P : Primitives) (n : Nat) (s : StandardChannel)
    (rest : List ChannelOp) :
    runOps P s (List.replicate n overflowTemplateOp ++ rest) = runOps P (takeJobId^[n] s) rest := by
  induction n generalizing s with
  | zero => rfl
  | succ n ih => exact ih (takeJobId s)

theorem takeJobId_iterate (n : Nat) (s : StandardChannel) :
    takeJobId^[n] s = { s with jobFactory := (takeJobId^[n] s).jobFactory } := by
  induction n generalizing s with
  | zero => rfl
  | succ n ih => rw [Function.iterate_succ_apply, ih]; rfl

theorem toNat_takeJobId_iterate (n : Nat) (s : StandardChannel) :
    (takeJobId^[n] s).jobFactory.lastJobId.toNat = (s.jobFactory.lastJobId.toNat + n) % 2 ^ 32 := by
  induction n generalizing s with
  | zero =>
      have hlt : s.jobFactory.lastJobId.toNat < 2 ^ 32 := s.jobFactory.lastJobId.toNat_lt_size
      show s.jobFactory.lastJobId.toNat = (s.jobFactory.lastJobId.toNat + 0) % 2 ^ 32
      omega
  | succ n ih =>
      have hsucc : (takeJobId s).jobFactory.lastJobId.toNat =
          (s.jobFactory.lastJobId.toNat + 1) % 2 ^ 32 := rfl
      rw [Function.iterate_succ_apply, ih, hsucc]
      omega

theorem JobFactory.eq_of_lastJobId {f g : JobFactory} (h : f.lastJobId = g.lastJobId) : f = g := by
  cases f; cases g; cases h; rfl

/-- `2 ^ 32 - 1` more job ids bring the counter from `1` back to `0`. -/
theorem takeJobId_wraps {s : StandardChannel} (hs : s.jobFactory.lastJobId = 1) :
    takeJobId^[2 ^ 32 - 1] s = { s with jobFactory := ⟨0⟩ } := by
  have h : (takeJobId^[2 ^ 32 - 1] s).jobFactory = ⟨0⟩ := by
    apply JobFactory.eq_of_lastJobId
    apply UInt32.toNat.inj
    rw [toNat_takeJobId_iterate, hs]
    rfl
  rw [takeJobId_iterate, h]

theorem jobId_reused_after_counter_wraps :
    ∃ s₀ s₁ s,
      new .everyShareABlock 1 sampleExtranoncePrefix maxTarget 10.0 100 1.0 JobStore.empty =
        .ok s₀ ∧
      runOps .everyShareABlock s₀ activatedJobRun = some s₁ ∧
      runOps .everyShareABlock s₁ (List.replicate (2 ^ 32 - 1) overflowTemplateOp ++
        [.onNewTemplate (sampleTemplate 2 true) sampleRewardOutputs]) = some s ∧
      s.jobStore.activeJob.map StandardJob.jobId = some 1 ∧
      (1 : UInt32) ∈ s.jobStore.futureJobs := by
  exact ⟨_, _, _, rfl, rfl,
    by rw [runOps_replicate_overflowTemplateOp, takeJobId_wraps rfl]; rfl, by rfl, by decide⟩

end StratumV2
