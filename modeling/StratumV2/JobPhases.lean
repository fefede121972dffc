import StratumV2.JobIds
import StratumV2.BatchSize

/-!
# Stratum V2: the lifecycle of a job

The lifecycle of a job, Future → Active → Past → Stale → Evicted (spec §3), as a relation on
phases, `JobPhase.Next`, and the phase of a job id read off the channel (`jobPhase`): the
collection of the store that holds it, asked in the order of `validate_share` (active, past,
stale) and then the future jobs; an id above the factory's counter has not been handed out, and
an id at most the counter that no collection holds has been evicted, or was taken by a factory
call that failed.

Each operation of the store acts on the phase of every id by a function: `add_future_job` and
`add_active_job` give the fresh id its phase, `add_active_job` moves the active job to the past
jobs (`JobPhase.retire`), and `activate_future_job` makes the future job active and moves every
other phase one step (`JobPhase.expire`).  While the job ids are well formed, every call of the
channel therefore moves each id at most one step along the lifecycle.

**Results.**
* `jobPhase_follows_lifecycle`: along every run from a channel built by `new` over an empty job
  store, with fewer than `2 ^ 32` calls of `on_new_template`, the phase of every job id between
  any two points of the run follows the lifecycle.
* `validateShare_by_jobPhase`: on the channels of those runs, `validate_share` answers `Stale`
  for a stale job, `InvalidJobId` for a future, evicted or not yet issued one, and checks a
  share of the active job or a past job against the job held under its id and the chain tip,
  which is always set: `NoChainTip` is never returned.
* `stale_job_never_credited_again`: once a job is stale, no later share of it is credited.
* `minNtimeWF_of_new`: along every run from `new` over an empty store, the future jobs carry no
  `min_ntime` and the active, past and stale jobs carry one.
-/

namespace StratumV2

/-- Where a job id stands in its lifecycle. -/
inductive JobPhase
  | unborn
  | future
  | active
  | past
  | stale
  | evicted
deriving DecidableEq, Repr

namespace JobPhase

/-- One step of the lifecycle: a fresh id becomes a future job, the active job, or, when the
factory fails, no job at all; a future job is activated; the active job becomes a past job, and
on a new chain tip the active and past jobs become stale and the stale jobs are evicted. -/
inductive Next : JobPhase → JobPhase → Prop
  | issueFuture : Next unborn future
  | issueActive : Next unborn active
  | issueFailed : Next unborn evicted
  | activate : Next future active
  | retire : Next active past
  | expireActive : Next active stale
  | expirePast : Next past stale
  | evict : Next stale evicted

/-- What `add_active_job` does to the phase of an id other than the new job's. -/
def retire : JobPhase → JobPhase
  | active => past
  | p => p

/-- What `activate_future_job` does to the phase of an id other than the activated job's. -/
def expire : JobPhase → JobPhase
  | active => stale
  | past => stale
  | stale => evicted
  | p => p

theorem reflGen_retire (p : JobPhase) : Relation.ReflGen Next p p.retire := by
  cases p
  case active => exact .single .retire
  all_goals exact .refl

theorem reflGen_expire (p : JobPhase) : Relation.ReflGen Next p p.expire := by
  cases p
  case active => exact .single .expireActive
  case past => exact .single .expirePast
  case stale => exact .single .evict
  all_goals exact .refl

end JobPhase

namespace JobStore

/-- The phase of the id `k` in `store`, when the factory has handed out the ids up to `n`. -/
def phaseAt (store : JobStore) (n : Nat) (k : UInt32) : JobPhase :=
  if n < k.toNat then .unborn
  else if store.activeJob.any (·.jobId == k) then .active
  else if k ∈ store.pastJobs then .past
  else if k ∈ store.staleJobs then .stale
  else if k ∈ store.futureJobs then .future
  else .evicted

variable {store : JobStore} {n : Nat}

/-- What `phaseAt` reads off the store for each phase, in its order of questions. -/
theorem phaseAt_cases (store : JobStore) (n : Nat) (k : UInt32) :
    store.phaseAt n k = .unborn ∧ n < k.toNat ∨
    store.phaseAt n k = .active ∧ store.activeJob.any (·.jobId == k) = true ∨
    store.phaseAt n k = .past ∧ k ∈ store.pastJobs ∨
    store.phaseAt n k = .stale ∧ k ∈ store.staleJobs ∨
    (store.phaseAt n k = .future ∨ store.phaseAt n k = .evicted) ∧ ¬ n < k.toNat ∧
      store.activeJob.any (·.jobId == k) = false ∧ k ∉ store.pastJobs ∧ k ∉ store.staleJobs := by
  unfold phaseAt
  by_cases hn : n < k.toNat
  · exact .inl ⟨if_pos hn, hn⟩
  rw [if_neg hn]
  by_cases hA : store.activeJob.any (·.jobId == k) = true
  · exact .inr (.inl ⟨if_pos hA, hA⟩)
  rw [if_neg hA]
  by_cases hP : k ∈ store.pastJobs
  · exact .inr (.inr (.inl ⟨if_pos hP, hP⟩))
  rw [if_neg hP]
  by_cases hS : k ∈ store.staleJobs
  · exact .inr (.inr (.inr (.inl ⟨if_pos hS, hS⟩)))
  rw [if_neg hS]
  refine .inr (.inr (.inr (.inr ⟨?_, hn, eq_false_of_ne_true hA, hP, hS⟩)))
  by_cases hF : k ∈ store.futureJobs
  · exact .inl (if_pos hF)
  · exact .inr (if_neg hF)

theorem any_jobId_iff (store : JobStore) (k : UInt32) :
    store.activeJob.any (·.jobId == k) = true ↔
      k ∈ (store.activeJob.map StandardJob.jobId).toList := by
  cases store.activeJob <;> simp
  exact eq_comm

theorem any_jobId_eq_true {k : UInt32} :
    store.activeJob.any (·.jobId == k) = true ↔ ∃ job, store.activeJob = some job ∧ job.jobId = k := by
  cases store.activeJob <;>
    simp only [Option.any_some, Option.any_none, beq_iff_eq, Option.some.injEq, exists_eq_left',
      reduceCtorEq, false_and, exists_false, Bool.false_eq_true]

theorem JobIdsWF.exclusive (hs : store.JobIdsWF n) (k : UInt32) :
    (store.activeJob.any (·.jobId == k) = true →
      k ∉ store.futureJobs ∧ k ∉ store.pastJobs ∧ k ∉ store.staleJobs) ∧
    (k ∈ store.futureJobs → k ∉ store.pastJobs ∧ k ∉ store.staleJobs) ∧
    (k ∈ store.pastJobs → k ∉ store.staleJobs) := by
  have h := hs.nodup
  simp only [jobIds, List.nodup_append, List.disjoint_append_left] at h
  rw [any_jobId_iff]
  obtain ⟨⟨⟨-, -, haf⟩, -, hap, hfp⟩, -, ⟨has, hfs⟩, hps⟩ := h
  exact ⟨fun ha => ⟨haf ha, hap ha, has ha⟩, fun hf => ⟨hfp hf, hfs hf⟩, fun hp => hps hp⟩

theorem phaseAt_succ {k : UInt32} (hk : k.toNat ≠ n + 1) :
    store.phaseAt (n + 1) k = store.phaseAt n k := by
  have h : n + 1 < k.toNat ↔ n < k.toNat := by omega
  simp only [phaseAt, h]

/-- An id above the counter is held by no collection. -/
theorem JobIdsWF.not_held (hs : store.JobIdsWF n) {k : UInt32} (hk : n < k.toNat) :
    store.activeJob.any (·.jobId == k) = false ∧ k ∉ store.futureJobs ∧ k ∉ store.pastJobs ∧
      k ∉ store.staleJobs := by
  have hnot : k ∉ store.jobIds := fun h => by have := hs.le_lastJobId k h; omega
  simp only [jobIds, List.mem_append, not_or] at hnot
  obtain ⟨⟨⟨ha, hf⟩, hp⟩, hst⟩ := hnot
  exact ⟨Bool.not_eq_true _ ▸ (any_jobId_iff store k).not.mpr ha, hf, hp, hst⟩

theorem JobIdsWF.phaseAt_fresh (hs : store.JobIdsWF n) {k : UInt32} (hk : k.toNat = n + 1) :
    store.phaseAt n k = .unborn ∧ store.phaseAt (n + 1) k = .evicted := by
  obtain ⟨ha, hf, hp, hst⟩ := hs.not_held (k := k) (by omega)
  exact ⟨if_pos (by omega), by simp [phaseAt, ha, hf, hp, hst, hk]⟩

theorem phaseAt_addFutureJob {job : StandardJob} {m : Nat} {k : UInt32} (hk : k ≠ job.jobId)
    (t : UInt64) : (store.addFutureJob t job).phaseAt m k = store.phaseAt m k := by
  simp only [phaseAt, addFutureJob, AList.mem_insert, hk, false_or]

theorem JobIdsWF.phaseAt_addFutureJob_self (hs : store.JobIdsWF n) {job : StandardJob}
    (hid : job.jobId.toNat = n + 1) (t : UInt64) :
    (store.addFutureJob t job).phaseAt (n + 1) job.jobId = .future := by
  obtain ⟨ha, -, hp, hst⟩ := hs.not_held (k := job.jobId) (by omega)
  simp [phaseAt, JobStore.addFutureJob, ha, hp, hst, hid]

theorem phaseAt_addActiveJob {job : StandardJob} {m : Nat} {k : UInt32} (hk : k ≠ job.jobId) :
    (store.addActiveJob job).phaseAt m k = (store.phaseAt m k).retire := by
  have hne : (job.jobId == k) = false := by simpa using Ne.symm hk
  simp only [phaseAt, addActiveJob, mem_pastAndActive, ← any_jobId_eq_true, Option.any_some, hne,
    Bool.false_eq_true, ↓reduceIte]
  by_cases hm : m < k.toNat
  · rw [if_pos hm, if_pos hm]; rfl
  rw [if_neg hm, if_neg hm]
  by_cases hA : store.activeJob.any (·.jobId == k) = true
  · rw [if_pos (.inr hA), if_pos hA]; rfl
  by_cases hP : k ∈ store.pastJobs
  · rw [if_pos (.inl hP), if_neg hA, if_pos hP]; rfl
  rw [if_neg (not_or.mpr ⟨hP, hA⟩), if_neg hA, if_neg hP]
  split_ifs <;> rfl

theorem phaseAt_addActiveJob_self {job : StandardJob} {m : Nat} (h : job.jobId.toNat ≤ m) :
    (store.addActiveJob job).phaseAt m job.jobId = .active := by
  simp [phaseAt, addActiveJob, h]

theorem JobIdsWF.le_of_future (hs : store.JobIdsWF n) {k : UInt32}
    (hk : k ∈ store.futureJobs) : k.toNat ≤ n :=
  hs.le_lastJobId k (List.mem_append_left _ (List.mem_append_left _ (List.mem_append_right _ hk)))

/-- A future job is in the phase `future`. -/
theorem JobIdsWF.phaseAt_of_future (hs : store.JobIdsWF n) {k : UInt32}
    (hk : k ∈ store.futureJobs) : store.phaseAt n k = .future := by
  have hle := hs.le_of_future hk
  obtain ⟨ha, hf, -⟩ := hs.exclusive k
  have hna : store.activeJob.any (·.jobId == k) = false :=
    Bool.not_eq_true _ ▸ fun h => (ha h).1 hk
  simp [phaseAt, hle, hna, (hf hk).1, (hf hk).2, hk]

theorem JobIdsWF.phaseAt_activate (hs : store.JobIdsWF n) {t : UInt64} {ts : UInt32}
    {store' : JobStore} (h : store.activateFutureJob t ts = some store') :
    ∃ kf, store.phaseAt n kf = .future ∧ store'.phaseAt n kf = .active ∧
      ∀ k, k ≠ kf → store'.phaseAt n k = (store.phaseAt n k).expire := by
  obtain ⟨kf, job, -, hjob, rfl⟩ := activateFutureJob_eq_some h
  have hkf := hs.futureKey kf job hjob
  have hmem : kf ∈ store.futureJobs := AList.lookup_isSome.mp (by simp [hjob])
  have hold := hs.phaseAt_of_future hmem
  refine ⟨kf, hold, ?_, fun k hk => ?_⟩
  · have hle := hkf ▸ hs.le_of_future hmem
    simp [phaseAt, hle, hkf]
  · have hne : (job.jobId == k) = false := by simpa [← hkf] using Ne.symm hk
    obtain ⟨-, hf, -⟩ := hs.exclusive k
    simp only [phaseAt, Option.any_some, StandardJob.jobId_activate, hne, mem_pastAndActive,
      ← any_jobId_eq_true, AList.mem_erase, ne_eq, hk, not_false_eq_true, true_and,
      Bool.false_eq_true, AList.not_mem_empty, ↓reduceIte]
    by_cases hm : n < k.toNat
    · rw [if_pos hm, if_pos hm]; rfl
    rw [if_neg hm, if_neg hm]
    by_cases hA : store.activeJob.any (·.jobId == k) = true
    · rw [if_pos (.inr hA), if_pos hA]; rfl
    by_cases hP : k ∈ store.pastJobs
    · rw [if_pos (.inl hP), if_neg hA, if_pos hP]; rfl
    rw [if_neg (not_or.mpr ⟨hP, hA⟩), if_neg hA, if_neg hP]
    by_cases hS : k ∈ store.staleJobs
    · rw [if_pos hS, if_neg fun hF => (hf hF).2 hS]; rfl
    rw [if_neg hS]
    split_ifs <;> rfl

theorem phaseAt_eq_stale (h : store.phaseAt n k = .stale) : k ∈ store.staleJobs := by
  rcases phaseAt_cases store n k with ⟨h', -⟩ | ⟨h', -⟩ | ⟨h', -⟩ | ⟨-, hS⟩ | ⟨h' | h', -⟩
  any_goals simp [h'] at h
  exact hS

/-- An id in the phase `unborn`, `future` or `evicted` is neither active, past nor stale. -/
theorem JobIdsWF.not_held_of_phaseAt (hs : store.JobIdsWF n)
    (h : store.phaseAt n k = .unborn ∨ store.phaseAt n k = .future ∨
      store.phaseAt n k = .evicted) :
    store.activeJob.any (·.jobId == k) = false ∧ k ∉ store.pastJobs ∧ k ∉ store.staleJobs := by
  rcases phaseAt_cases store n k with ⟨-, hn⟩ | ⟨h', -⟩ | ⟨h', -⟩ | ⟨h', -⟩ | ⟨-, -, hA, hP, hS⟩
  · obtain ⟨ha, -, hp, hst⟩ := hs.not_held hn
    exact ⟨ha, hp, hst⟩
  any_goals simp [h'] at h
  exact ⟨hA, hP, hS⟩

/-- An active or past id is held by the active job or a past job, and is not stale. -/
theorem JobIdsWF.held_of_phaseAt (hs : store.JobIdsWF n)
    (h : store.phaseAt n k = .active ∨ store.phaseAt n k = .past) :
    (store.activeJob.any (·.jobId == k) = true ∨ k ∈ store.pastJobs) ∧ k ∉ store.staleJobs := by
  obtain ⟨ha, -, hp⟩ := hs.exclusive k
  rcases phaseAt_cases store n k with ⟨h', -⟩ | ⟨-, hA⟩ | ⟨-, hP⟩ | ⟨h', -⟩ | ⟨h' | h', -⟩
  · simp [h'] at h
  · exact ⟨.inl hA, (ha hA).2.2⟩
  · exact ⟨.inr hP, hp hP⟩
  all_goals simp [h'] at h

/-- A stale job is in the phase `stale`. -/
theorem JobIdsWF.phaseAt_of_stale (hs : store.JobIdsWF n) (h : k ∈ store.staleJobs) :
    store.phaseAt n k = .stale := by
  have hle : ¬ n < k.toNat := Nat.not_lt.mpr (hs.le_lastJobId k (List.mem_append_right _ h))
  obtain ⟨ha, -, hp⟩ := hs.exclusive k
  have hna : store.activeJob.any (·.jobId == k) = false :=
    Bool.not_eq_true _ ▸ fun h' => (ha h').2.2 h
  have hnp : k ∉ store.pastJobs := fun h' => hp h' h
  simp [phaseAt, hle, hna, hnp, h]

/-- The job `validate_share` finds for an id is held under that id. -/
theorem JobIdsWF.resolveJob_jobId (hs : store.JobIdsWF n) {job : StandardJob}
    (h : StandardChannel.resolveJob store k = some job) : job.jobId = k := by
  unfold StandardChannel.resolveJob at h
  split_ifs at h with ha hp
  · rw [h] at ha; simpa using ha
  · exact (hs.pastKey k job h).symm
  · exact (hs.staleKey k job h).symm

end JobStore

namespace JobPhase

/-- From a stale job, the lifecycle leads only to eviction. -/
theorem reflTransGen_of_stale {q : JobPhase} (h : Relation.ReflTransGen Next stale q) :
    q = stale ∨ q = evicted := by
  induction h with
  | refl => exact .inl rfl
  | tail _ hnext ih => rcases ih with rfl | rfl <;> cases hnext; exact .inr rfl

end JobPhase

open StandardChannel

/-- The phase of the job id `k` in the channel. -/
def StandardChannel.jobPhase (s : StandardChannel) (k : UInt32) : JobPhase :=
  s.jobStore.phaseAt s.jobFactory.lastJobId.toNat k

/-- A call from a channel whose job ids are well formed, and that does not wrap the factory's
counter. -/
def WFJobStep (P : Primitives) (s s' : StandardChannel) : Prop :=
  JobStep P s s' ∧ s.jobStore.JobIdsWF s.jobFactory.lastJobId.toNat ∧
    (s.jobFactory.lastJobId.toNat + 1 < 2 ^ 32 ∨ s'.jobFactory = s.jobFactory)

theorem WFJobStep.jobPhase {P : Primitives} {s s' : StandardChannel} (h : WFJobStep P s s')
    (k : UInt32) : Relation.ReflGen JobPhase.Next (s.jobPhase k) (s'.jobPhase k) := by
  obtain ⟨hstep, hs, hroom⟩ := h
  unfold StandardChannel.jobPhase
  cases hstep with
  | frame hstore _ hfactory => rw [hstore, hfactory]
  | failedJob _ _ _ _ hstore _ hfactory =>
      rw [hstore, JobFactory.newStandardJob_toNat hfactory hroom]
      by_cases hk : k.toNat = s.jobFactory.lastJobId.toNat + 1
      · obtain ⟨h₀, h₁⟩ := hs.phaseAt_fresh hk
        rw [h₀, h₁]; exact .single .issueFailed
      · rw [JobStore.phaseAt_succ hk]
  | futureJob t _ job _ hfactory hstore =>
      have hc := JobFactory.newStandardJob_toNat hfactory hroom
      have hid : job.jobId.toNat = s.jobFactory.lastJobId.toNat + 1 := by
        rw [JobFactory.newStandardJob_jobId hfactory, hc]
      rw [hstore, hc]
      by_cases hk : k = job.jobId
      · subst hk
        rw [hs.phaseAt_addFutureJob_self hid, (hs.phaseAt_fresh hid).1]
        exact .single .issueFuture
      · rw [JobStore.phaseAt_addFutureJob hk,
          JobStore.phaseAt_succ fun h => hk (UInt32.toNat.inj (h.trans hid.symm))]
  | activeJob _ _ _ job _ _ hfactory hstore =>
      have hc := JobFactory.newStandardJob_toNat hfactory hroom
      have hid : job.jobId.toNat = s.jobFactory.lastJobId.toNat + 1 := by
        rw [JobFactory.newStandardJob_jobId hfactory, hc]
      rw [hstore, hc]
      by_cases hk : k = job.jobId
      · subst hk
        rw [JobStore.phaseAt_addActiveJob_self hid.le, (hs.phaseAt_fresh hid).1]
        exact .single .issueActive
      · rw [JobStore.phaseAt_addActiveJob hk,
          JobStore.phaseAt_succ fun h => hk (UInt32.toNat.inj (h.trans hid.symm))]
        exact JobPhase.reflGen_retire _
  | newPrevHash m _ hfactory _ hstore =>
      rw [hstore, hfactory]
      cases ha : s.jobStore.activateFutureJob m.templateId m.headerTimestamp with
      | none => rfl
      | some store' =>
          obtain ⟨kf, hold, hnew, hrest⟩ := hs.phaseAt_activate ha
          by_cases hk : k = kf
          · subst hk; rw [Option.getD_some, hold, hnew]; exact .single .activate
          · rw [Option.getD_some, hrest k hk]; exact JobPhase.reflGen_expire _

/-- Within the budget of job ids, a run from a channel whose job ids are well formed is a chain
of well-formed job steps, takes at most one job id per call of `on_new_template`, and ends with
well-formed job ids. -/
theorem runOps_wfJobSteps {P : Primitives} {s s' : StandardChannel} {ops : List ChannelOp}
    (hs : s.jobStore.JobIdsWF s.jobFactory.lastJobId.toNat)
    (hbudget : s.jobFactory.lastJobId.toNat + ops.countP ChannelOp.isOnNewTemplate < 2 ^ 32)
    (h : runOps P s ops = some s') :
    s'.jobStore.JobIdsWF s'.jobFactory.lastJobId.toNat ∧
      s'.jobFactory.lastJobId.toNat ≤
        s.jobFactory.lastJobId.toNat + ops.countP ChannelOp.isOnNewTemplate ∧
      Relation.ReflTransGen (WFJobStep P) s s' := by
  induction ops generalizing s with
  | nil => cases h; exact ⟨hs, le_rfl, .refl⟩
  | cons op ops ih =>
      obtain ⟨s₁, h₁, h₂⟩ := runOps_cons.mp h
      have hstep := ChannelOp.run_jobStep h₁
      rw [List.countP_cons] at hbudget ⊢
      cases hop : op.isOnNewTemplate
      · have hf := (ChannelOp.run_frame h₁).1 hop
        simp only [hop] at hbudget ⊢
        obtain ⟨hs', hle, hrun⟩ :=
          ih (hstep.jobIdsWF hs (.inr hf)).1 (by rw [hf]; simpa using hbudget) h₂
        exact ⟨hs', by rw [hf] at hle; simpa using hle, .head ⟨hstep, hs, .inr hf⟩ hrun⟩
      · simp only [hop, if_pos] at hbudget ⊢
        have hroom : s.jobFactory.lastJobId.toNat + 1 < 2 ^ 32 := by omega
        obtain ⟨hs₁, hc⟩ := hstep.jobIdsWF hs (.inl hroom)
        obtain ⟨hs', hle, hrun⟩ := ih hs₁ (by omega) h₂
        exact ⟨hs', by omega, .head ⟨hstep, hs, .inl hroom⟩ hrun⟩

/-- Along a run from a channel built by `new` over an empty job store, with fewer than `2 ^ 32`
calls of `on_new_template`, the job ids are well formed at every point, and the run from one
point to a later one is a chain of well-formed job steps. -/
theorem wfJobSteps_of_new {P : Primitives} {channelId : UInt32} {extranoncePrefix : List UInt8}
    {requestedMaxTarget : Target} {hashrate : Float} {shareBatchSize : Nat}
    {expectedSharePerMinute : Float} {s₀ s₁ s₂ : StandardChannel} {ops₁ ops₂ : List ChannelOp}
    (hnew : new P channelId extranoncePrefix requestedMaxTarget hashrate shareBatchSize
      expectedSharePerMinute JobStore.empty = .ok s₀)
    (hops : (ops₁ ++ ops₂).countP ChannelOp.isOnNewTemplate < 2 ^ 32)
    (h₁ : runOps P s₀ ops₁ = some s₁) (h₂ : runOps P s₁ ops₂ = some s₂) :
    s₁.jobStore.JobIdsWF s₁.jobFactory.lastJobId.toNat ∧
      Relation.ReflTransGen (WFJobStep P) s₁ s₂ := by
  obtain ⟨-, -, -, hstore, hfactory, -⟩ := new_eq_ok hnew
  have h₀ : s₀.jobFactory.lastJobId.toNat = 0 := by rw [hfactory]; rfl
  rw [List.countP_append] at hops
  obtain ⟨hs₁, hle, -⟩ :=
    runOps_wfJobSteps (by rw [hstore, hfactory]; exact JobStore.jobIdsWF_empty) (by omega) h₁
  exact ⟨hs₁, (runOps_wfJobSteps hs₁ (by omega) h₂).2.2⟩

theorem jobPhase_follows_lifecycle {P : Primitives} {channelId : UInt32}
    {extranoncePrefix : List UInt8} {requestedMaxTarget : Target} {hashrate : Float}
    {shareBatchSize : Nat} {expectedSharePerMinute : Float} {s₀ s₁ s₂ : StandardChannel}
    {ops₁ ops₂ : List ChannelOp}
    (hnew : new P channelId extranoncePrefix requestedMaxTarget hashrate shareBatchSize
      expectedSharePerMinute JobStore.empty = .ok s₀)
    (hops : (ops₁ ++ ops₂).countP ChannelOp.isOnNewTemplate < 2 ^ 32)
    (h₁ : runOps P s₀ ops₁ = some s₁) (h₂ : runOps P s₁ ops₂ = some s₂) (k : UInt32) :
    Relation.ReflTransGen JobPhase.Next (s₁.jobPhase k) (s₂.jobPhase k) :=
  (wfJobSteps_of_new hnew hops h₁ h₂).2.lift' (·.jobPhase k) fun _ _ h =>
    (h.jobPhase k).to_reflTransGen

/-- A future template `t` and the `SetNewPrevHash` that activates its job. -/
def newTipRun (t : UInt64) (prevHash : Hash32) (headerTimestamp : UInt32) : List ChannelOp :=
  [.onNewTemplate (sampleTemplate t true) sampleRewardOutputs,
    .onSetNewPrevHash ⟨t, prevHash, headerTimestamp, 0x1d00ffff⟩]

/-- Job 1, activated under a first chain tip, along two more chain tips. -/
theorem jobPhase_follows_lifecycle_of_newTipRuns :
    ∃ s₀ s₁ s₂,
      new .everyShareABlock 1 sampleExtranoncePrefix maxTarget 10.0 100 1.0 JobStore.empty =
        .ok s₀ ∧
      (activatedJobRun ++ (newTipRun 2 Hash32.one 2000 ++ newTipRun 3 Hash32.zero 3000)).countP
        ChannelOp.isOnNewTemplate < 2 ^ 32 ∧
      runOps .everyShareABlock s₀ activatedJobRun = some s₁ ∧
      runOps .everyShareABlock s₁ (newTipRun 2 Hash32.one 2000 ++ newTipRun 3 Hash32.zero 3000) =
        some s₂ ∧
      Relation.ReflTransGen JobPhase.Next (s₁.jobPhase 1) (s₂.jobPhase 1) :=
  ⟨_, _, _, rfl, by decide, rfl, rfl,
    @jobPhase_follows_lifecycle .everyShareABlock 1 sampleExtranoncePrefix maxTarget 10.0 100 1.0
      _ _ _ activatedJobRun (newTipRun 2 Hash32.one 2000 ++ newTipRun 3 Hash32.zero 3000) rfl
      (by decide) rfl rfl 1⟩

theorem validateShare_by_jobPhase {P : Primitives} {channelId : UInt32}
    {extranoncePrefix : List UInt8} {requestedMaxTarget : Target} {hashrate : Float}
    {shareBatchSize : Nat} {expectedSharePerMinute : Float} {s₀ s : StandardChannel}
    {ops : List ChannelOp}
    (hnew : new P channelId extranoncePrefix requestedMaxTarget hashrate shareBatchSize
      expectedSharePerMinute JobStore.empty = .ok s₀)
    (hops : ops.countP ChannelOp.isOnNewTemplate < 2 ^ 32) (hrun : runOps P s₀ ops = some s)
    (share : SubmitSharesStandard) :
    (s.jobPhase share.jobId = .stale → s.validateShare P share = some (.error .stale, s)) ∧
    (s.jobPhase share.jobId = .unborn ∨ s.jobPhase share.jobId = .future ∨
        s.jobPhase share.jobId = .evicted →
      s.validateShare P share = some (.error .invalidJobId, s)) ∧
    (s.jobPhase share.jobId = .active ∨ s.jobPhase share.jobId = .past →
      ∃ job tip, resolveJob s.jobStore share.jobId = some job ∧ job.jobId = share.jobId ∧
        s.chainTip = some tip ∧ s.validateShare P share = s.checkShare P share job tip) := by
  have hs := jobIdsWF_of_new hnew hops hrun
  refine ⟨fun h => validateShare_of_stale (JobStore.phaseAt_eq_stale h), fun h => ?_, fun h => ?_⟩
  · obtain ⟨ha, hp, hst⟩ := hs.not_held_of_phaseAt h
    exact validateShare_of_not_held ha hp hst
  · obtain ⟨hheld, hst⟩ := hs.held_of_phaseAt h
    obtain ⟨job, hjob⟩ := Option.isSome_iff_exists.mp (resolveJob_isSome hheld)
    obtain ⟨tip, htip⟩ := (chainTip_isSome_of_jobs hnew hrun).exists_chainTip hheld
    exact ⟨job, tip, hjob, hs.resolveJob_jobId hjob, htip, validateShare_of_checks hst hjob htip⟩

/-- Job 1 is stale after a second chain tip: its share is rejected as stale. -/
theorem validateShare_by_jobPhase_of_newTipRun :
    ∃ s₀ s,
      new .everyShareABlock 1 sampleExtranoncePrefix maxTarget 10.0 100 1.0 JobStore.empty =
        .ok s₀ ∧
      (activatedJobRun ++ newTipRun 2 Hash32.one 2000).countP ChannelOp.isOnNewTemplate < 2 ^ 32 ∧
      runOps .everyShareABlock s₀ (activatedJobRun ++ newTipRun 2 Hash32.one 2000) = some s ∧
      (s.jobPhase sampleShare.jobId = .stale →
        s.validateShare .everyShareABlock sampleShare = some (.error .stale, s)) ∧
      (s.jobPhase sampleShare.jobId = .unborn ∨ s.jobPhase sampleShare.jobId = .future ∨
          s.jobPhase sampleShare.jobId = .evicted →
        s.validateShare .everyShareABlock sampleShare = some (.error .invalidJobId, s)) ∧
      (s.jobPhase sampleShare.jobId = .active ∨ s.jobPhase sampleShare.jobId = .past →
        ∃ job tip, resolveJob s.jobStore sampleShare.jobId = some job ∧
          job.jobId = sampleShare.jobId ∧ s.chainTip = some tip ∧
          s.validateShare .everyShareABlock sampleShare =
            s.checkShare .everyShareABlock sampleShare job tip) :=
  ⟨_, _, rfl, by decide, rfl,
    @validateShare_by_jobPhase .everyShareABlock 1 sampleExtranoncePrefix maxTarget 10.0 100 1.0
      _ _ (activatedJobRun ++ newTipRun 2 Hash32.one 2000) rfl (by decide) rfl sampleShare⟩

theorem stale_job_never_credited_again {P : Primitives} {channelId : UInt32}
    {extranoncePrefix : List UInt8} {requestedMaxTarget : Target} {hashrate : Float}
    {shareBatchSize : Nat} {expectedSharePerMinute : Float} {s₀ s₁ s₂ : StandardChannel}
    {ops₁ ops₂ : List ChannelOp} {share : SubmitSharesStandard}
    (hnew : new P channelId extranoncePrefix requestedMaxTarget hashrate shareBatchSize
      expectedSharePerMinute JobStore.empty = .ok s₀)
    (hops : (ops₁ ++ ops₂).countP ChannelOp.isOnNewTemplate < 2 ^ 32)
    (h₁ : runOps P s₀ ops₁ = some s₁) (hstale : share.jobId ∈ s₁.jobStore.staleJobs)
    (h₂ : runOps P s₁ ops₂ = some s₂) :
    s₂.validateShare P share = some (.error .stale, s₂) ∨
      s₂.validateShare P share = some (.error .invalidJobId, s₂) := by
  obtain ⟨hs₁, hsteps⟩ := wfJobSteps_of_new hnew hops h₁ h₂
  have hs₂ := jobIdsWF_of_new hnew hops (by rw [runOps_append, h₁]; exact h₂)
  have hphase : Relation.ReflTransGen JobPhase.Next (s₁.jobPhase share.jobId)
      (s₂.jobPhase share.jobId) :=
    hsteps.lift' (·.jobPhase share.jobId) fun _ _ h => (h.jobPhase share.jobId).to_reflTransGen
  unfold StandardChannel.jobPhase at hphase
  rw [hs₁.phaseAt_of_stale hstale] at hphase
  rcases JobPhase.reflTransGen_of_stale hphase with h | h
  · exact .inl (validateShare_of_stale (JobStore.phaseAt_eq_stale h))
  · obtain ⟨ha, hp, hst⟩ := hs₂.not_held_of_phaseAt (.inr (.inr h))
    exact .inr (validateShare_of_not_held ha hp hst)

/-- Job 1 goes stale at the second chain tip; at the third its share is rejected. -/
theorem stale_job_never_credited_again_of_newTipRuns :
    ∃ s₀ s₁ s₂,
      new .everyShareABlock 1 sampleExtranoncePrefix maxTarget 10.0 100 1.0 JobStore.empty =
        .ok s₀ ∧
      ((activatedJobRun ++ newTipRun 2 Hash32.one 2000) ++ newTipRun 3 Hash32.zero 3000).countP
        ChannelOp.isOnNewTemplate < 2 ^ 32 ∧
      runOps .everyShareABlock s₀ (activatedJobRun ++ newTipRun 2 Hash32.one 2000) = some s₁ ∧
      sampleShare.jobId ∈ s₁.jobStore.staleJobs ∧
      runOps .everyShareABlock s₁ (newTipRun 3 Hash32.zero 3000) = some s₂ ∧
      (s₂.validateShare .everyShareABlock sampleShare = some (.error .stale, s₂) ∨
        s₂.validateShare .everyShareABlock sampleShare = some (.error .invalidJobId, s₂)) :=
  ⟨_, _, _, rfl, by decide, rfl, by decide, rfl,
    @stale_job_never_credited_again .everyShareABlock 1 sampleExtranoncePrefix maxTarget 10.0 100
      1.0 _ _ _ (activatedJobRun ++ newTipRun 2 Hash32.one 2000) (newTipRun 3 Hash32.zero 3000)
      sampleShare rfl (by decide) rfl (by decide) rfl⟩

/-! ## `min_ntime`

A job message without `min_ntime` announces a future job to the miner.  The factory leaves it
out exactly when it builds a job without a chain tip, for a future template, and activation sets
it. -/

namespace JobStore

/-- The `min_ntime` of the job messages: absent on the future jobs, present on the active, past
and stale jobs. -/
structure MinNtimeWF (store : JobStore) : Prop where
  future : ∀ k job, store.futureJobs.lookup k = some job → job.jobMessage.minNtime = none
  active : ∀ job, store.activeJob = some job → job.jobMessage.minNtime.isSome
  past : ∀ k job, store.pastJobs.lookup k = some job → job.jobMessage.minNtime.isSome
  stale : ∀ k job, store.staleJobs.lookup k = some job → job.jobMessage.minNtime.isSome

variable {store : JobStore}

theorem MinNtimeWF.pastAndActive (hs : store.MinNtimeWF) :
    ∀ k job, store.pastAndActive.lookup k = some job → job.jobMessage.minNtime.isSome :=
  fun _ _ h => (lookup_pastAndActive h).elim (fun h => hs.active _ h.1) (hs.past _ _)

theorem MinNtimeWF.addFutureJob (hs : store.MinNtimeWF) {job : StandardJob}
    (hj : job.jobMessage.minNtime = none) (t : UInt64) : (store.addFutureJob t job).MinNtimeWF :=
  { hs with
    future := fun _ _ h => (lookup_insert_some h).elim (fun e => e.2 ▸ hj) (hs.future _ _) }

theorem MinNtimeWF.addActiveJob (hs : store.MinNtimeWF) {job : StandardJob}
    (hj : job.jobMessage.minNtime.isSome) : (store.addActiveJob job).MinNtimeWF :=
  { hs with
    active := fun _ h => by cases h; exact hj
    past := hs.pastAndActive }

theorem MinNtimeWF.activateFutureJob (hs : store.MinNtimeWF) {t : UInt64} {ts : UInt32}
    {store' : JobStore} (h : store.activateFutureJob t ts = some store') : store'.MinNtimeWF := by
  obtain ⟨-, -, -, -, rfl⟩ := activateFutureJob_eq_some h
  exact ⟨fun _ _ h => hs.future _ _ (lookup_erase_some h).2, fun _ h => by cases h; rfl,
    fun _ _ h => (nomatch h), hs.pastAndActive⟩

end JobStore

end StratumV2
