import StratumV2.Job

/-!
# Stratum V2: the job store

The channel keeps its jobs in a `JobStore`, a trait object whose default implementation is not
among the sources.  `JobStore` follows the spec (§3, §4.3): an optional active job, future jobs
indexed by job id together with the map `future_template_to_job_id`, and past and stale jobs
indexed by job id.  Hash maps are association lists (`AList`), which keep one entry per key
as a `HashMap` does; their iteration order is never observed.

* `addFutureJob`: the job joins the future jobs and its template points to it.
* `addActiveJob`: the active job, if any, moves to the past jobs.
* `activateFutureJob`: the future job of a template becomes active; the past jobs and the
  previous active job become the stale jobs, and the previous stale jobs are dropped.  For a
  template that is not pending it fails and changes nothing.

`AllJobs p` says that every job in the store satisfies `p`; the three operations keep it
(`allJobs_addFutureJob`, `allJobs_addActiveJob`, `allJobs_activateFutureJob`).
-/

namespace StratumV2

/-- A hash map from job ids to jobs. -/
abbrev JobMap := AList (fun _ : UInt32 => StandardJob)

/-- Modelled from the spec: the default job store, which is not among the sources. -/
structure JobStore where
  futureTemplateToJobId : AList (fun _ : UInt64 => UInt32)
  futureJobs : JobMap
  activeJob : Option StandardJob
  pastJobs : JobMap
  staleJobs : JobMap

namespace JobStore

/-- Modelled from the spec: an empty store. -/
def empty : JobStore :=
  ⟨∅, ∅, none, ∅, ∅⟩

/-- Modelled from the spec: `add_future_job`. -/
def addFutureJob (self : JobStore) (templateId : UInt64) (job : StandardJob) : JobStore :=
  { self with
    futureJobs := self.futureJobs.insert job.jobId job
    futureTemplateToJobId := self.futureTemplateToJobId.insert templateId job.jobId }

/-- The past jobs together with the active job, keyed by job id. -/
def pastAndActive (self : JobStore) : JobMap :=
  match self.activeJob with
  | some active => self.pastJobs.insert active.jobId active
  | none => self.pastJobs

/-- Modelled from the spec: `add_active_job`; the active job moves to the past jobs. -/
def addActiveJob (self : JobStore) (job : StandardJob) : JobStore :=
  { self with pastJobs := self.pastAndActive, activeJob := some job }

/-- Modelled from the spec: `activate_future_job`; `none` is the failure for a template that
is not pending, which leaves the store as it was. -/
def activateFutureJob (self : JobStore) (templateId : UInt64) (headerTimestamp : UInt32) :
    Option JobStore :=
  match self.futureTemplateToJobId.lookup templateId with
  | none => none
  | some jobId =>
      match self.futureJobs.lookup jobId with
      | none => none
      | some job =>
          some
            { futureTemplateToJobId := self.futureTemplateToJobId.erase templateId
              futureJobs := self.futureJobs.erase jobId
              activeJob := some (job.activate headerTimestamp)
              pastJobs := ∅
              staleJobs := self.pastAndActive }

/-- Every job held by the store satisfies `p`. -/
structure AllJobs (p : StandardJob → Prop) (s : JobStore) : Prop where
  active : ∀ job, s.activeJob = some job → p job
  future : ∀ k job, s.futureJobs.lookup k = some job → p job
  past : ∀ k job, s.pastJobs.lookup k = some job → p job
  stale : ∀ k job, s.staleJobs.lookup k = some job → p job

theorem lookup_insert_some {α β : Type} [DecidableEq α] {m : AList (fun _ : α => β)}
    {k k' : α}
    {v v' : β} (h : (m.insert k' v').lookup k = some v) :
    (k = k' ∧ v = v') ∨ m.lookup k = some v := by
  by_cases hk : k = k'
  · subst hk; simp at h; exact .inl ⟨rfl, h.symm⟩
  · rw [AList.lookup_insert_ne hk] at h; exact .inr h

theorem lookup_erase_some {α β : Type} [DecidableEq α] {m : AList (fun _ : α => β)} {k k' : α}
    {v : β} (h : (m.erase k').lookup k = some v) : k ≠ k' ∧ m.lookup k = some v := by
  by_cases hk : k = k'
  · subst hk; simp at h
  · rw [AList.lookup_erase_ne hk] at h; exact ⟨hk, h⟩

theorem lookup_pastAndActive {s : JobStore} {k : UInt32} {job : StandardJob}
    (h : s.pastAndActive.lookup k = some job) :
    (s.activeJob = some job ∧ k = job.jobId) ∨ s.pastJobs.lookup k = some job := by
  unfold pastAndActive at h
  split at h
  · rename_i hactive
    rcases lookup_insert_some h with ⟨rfl, rfl⟩ | h
    · exact .inl ⟨hactive, rfl⟩
    · exact .inr h
  · exact .inr h

theorem mem_pastAndActive {s : JobStore} {k : UInt32} :
    k ∈ s.pastAndActive ↔
      k ∈ s.pastJobs ∨ ∃ job, s.activeJob = some job ∧ job.jobId = k := by
  unfold pastAndActive
  split <;> simp_all [eq_comm, or_comm]

/-- What a successful activation does (and that it needs a pending template). -/
theorem activateFutureJob_eq_some {s s' : JobStore} {templateId : UInt64} {t : UInt32}
    (h : s.activateFutureJob templateId t = some s') :
    ∃ jobId job, s.futureTemplateToJobId.lookup templateId = some jobId ∧
      s.futureJobs.lookup jobId = some job ∧
      s' = { futureTemplateToJobId := s.futureTemplateToJobId.erase templateId
             futureJobs := s.futureJobs.erase jobId
             activeJob := some (job.activate t)
             pastJobs := ∅
             staleJobs := s.pastAndActive } := by
  unfold activateFutureJob at h
  split at h
  · cases h
  · split at h
    · cases h
    · cases h; exact ⟨_, _, ‹_›, ‹_›, rfl⟩

section AllJobs

variable {p : StandardJob → Prop} {s : JobStore}

theorem AllJobs.pastAndActive (hs : AllJobs p s) :
    ∀ k job, s.pastAndActive.lookup k = some job → p job := fun _ _ h =>
  (lookup_pastAndActive h).elim (fun h => hs.active _ h.1) (hs.past _ _)

theorem allJobs_empty : AllJobs p empty :=
  ⟨fun _ h => (nomatch h), fun _ _ h => (nomatch h), fun _ _ h => (nomatch h),
    fun _ _ h => (nomatch h)⟩

theorem allJobs_addFutureJob (hs : AllJobs p s) {job : StandardJob} (hj : p job)
    (templateId : UInt64) : AllJobs p (s.addFutureJob templateId job) :=
  { hs with
    future := fun _ _ h => (lookup_insert_some h).elim (fun e => e.2 ▸ hj) (hs.future _ _) }

theorem allJobs_addActiveJob (hs : AllJobs p s) {job : StandardJob} (hj : p job) :
    AllJobs p (s.addActiveJob job) :=
  { hs with
    active := fun _ h => by cases h; exact hj
    past := hs.pastAndActive }

theorem allJobs_activateFutureJob (hs : AllJobs p s)
    (hact : ∀ job t, p job → p (job.activate t)) {templateId : UInt64} {t : UInt32}
    {s' : JobStore} (h : s.activateFutureJob templateId t = some s') : AllJobs p s' := by
  obtain ⟨jobId, job, -, hjob, rfl⟩ := activateFutureJob_eq_some h
  exact ⟨fun _ h => by cases h; exact hact _ _ (hs.future _ _ hjob),
    fun _ _ h => hs.future _ _ (lookup_erase_some h).2, fun _ _ h => (nomatch h),
    hs.pastAndActive⟩

end AllJobs

end JobStore

end StratumV2
