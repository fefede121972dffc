import StratumV2.Transaction

/-!
# Stratum V2: messages, standard jobs and the job factory

The messages the standard channel consumes (`NewTemplate`, `SetNewPrevHash`,
`SubmitSharesStandard`), its chain tip, and the standard job with the `NewMiningJob` message
it carries.

The job factory is not among the sources; `JobFactory.newStandardJob` follows the spec
(§4.2): it numbers jobs with a `u32` counter, checks that the reward outputs fit in the
template's remaining coinbase value, builds the coinbase (script_sig = coinbase prefix ++
extranonce prefix, a null previous output, a 32-byte zero witness) and folds its txid with the
template's merkle path.  The coinbase outputs are the reward outputs followed by the outputs
serialized in `coinbase_tx_outputs`: the test vector `test_future_job_activation_flow` fixes the
merkle root `bdc819f6…`, which is the txid of exactly that coinbase.  The job keeps the template,
the extranonce prefix and the outputs it was built from, for the coinbase of a found block.

Arithmetic on the `u32` counter wraps, as Rust's release profile does.
-/

namespace StratumV2

/-- `template_distribution_sv2::NewTemplate`. -/
structure NewTemplate where
  templateId : UInt64
  futureTemplate : Bool
  version : UInt32
  coinbaseTxVersion : UInt32
  coinbasePrefix : List UInt8
  coinbaseTxInputSequence : UInt32
  coinbaseTxValueRemaining : UInt64
  coinbaseTxOutputsCount : UInt32
  coinbaseTxOutputs : List UInt8
  coinbaseTxLocktime : UInt32
  merklePath : List Hash32
deriving DecidableEq

/-- `template_distribution_sv2::SetNewPrevHash`, without its `target` field, which the channel
never reads: the network target is decoded from `n_bits`. -/
structure SetNewPrevHash where
  templateId : UInt64
  prevHash : Hash32
  headerTimestamp : UInt32
  nBits : UInt32
deriving DecidableEq

/-- `mining_sv2::SubmitSharesStandard`, without its `channel_id`, which `validate_share` never
reads. -/
structure SubmitSharesStandard where
  sequenceNumber : UInt32
  jobId : UInt32
  nonce : UInt32
  ntime : UInt32
  version : UInt32
deriving DecidableEq

/-- `ChainTip`: the previous block hash, the compact network target and the header timestamp of
the last `SetNewPrevHash`. -/
structure ChainTip where
  prevHash : Hash32
  nbits : UInt32
  headerTimestamp : UInt32
deriving DecidableEq

/-- `mining_sv2::NewMiningJob`. -/
structure NewMiningJob where
  channelId : UInt32
  jobId : UInt32
  minNtime : Option UInt32
  version : UInt32
  merkleRoot : Hash32
deriving DecidableEq

/-- `StandardJob`: the job message, and what the job was built from. -/
structure StandardJob where
  template : NewTemplate
  extranoncePrefix : List UInt8
  coinbaseOutputs : List TxOut
  jobMessage : NewMiningJob
deriving DecidableEq

/-- `StandardJob::get_job_id`. -/
def StandardJob.jobId (job : StandardJob) : UInt32 :=
  job.jobMessage.jobId

/-- `StandardJob::activate`: a future job becomes valid from `minNtime` on. -/
def StandardJob.activate (job : StandardJob) (minNtime : UInt32) : StandardJob :=
  { job with jobMessage := { job.jobMessage with minNtime := some minNtime } }

@[simp] theorem StandardJob.jobId_activate (job : StandardJob) (t : UInt32) :
    (job.activate t).jobId = job.jobId := rfl

@[simp] theorem StandardJob.template_activate (job : StandardJob) (t : UInt32) :
    (job.activate t).template = job.template := rfl

@[simp] theorem StandardJob.extranoncePrefix_activate (job : StandardJob) (t : UInt32) :
    (job.activate t).extranoncePrefix = job.extranoncePrefix := rfl

@[simp] theorem StandardJob.coinbaseOutputs_activate (job : StandardJob) (t : UInt32) :
    (job.activate t).coinbaseOutputs = job.coinbaseOutputs := rfl

@[simp] theorem StandardJob.merkleRoot_activate (job : StandardJob) (t : UInt32) :
    (job.activate t).jobMessage.merkleRoot = job.jobMessage.merkleRoot := rfl

/-- Modelled from the spec: the error of the job factory, which is not among the sources
("fails with `JobFactoryError` on encoding failure or value overflow"). -/
inductive JobFactoryError
  | encodingFailure
  | valueOverflow
deriving DecidableEq, Repr

/-- Modelled from the spec: the job factory, which is not among the sources; it holds the last
job id it handed out. -/
structure JobFactory where
  lastJobId : UInt32
deriving DecidableEq

/-- Modelled from the spec: `JobFactory::new`, a factory that has handed out no job id. -/
def JobFactory.new : JobFactory :=
  ⟨0⟩

/-- Modelled from the spec: the coinbase the job factory builds for a template, an extranonce
prefix and the coinbase outputs (§4.2, §6). -/
def JobFactory.coinbase (template : NewTemplate) (extranoncePrefix : List UInt8)
    (outputs : List TxOut) : Transaction where
  version := template.coinbaseTxVersion
  lockTime := template.coinbaseTxLocktime
  input :=
    [{ previousOutput := OutPoint.null
       scriptSig := template.coinbasePrefix ++ extranoncePrefix
       sequence := template.coinbaseTxInputSequence
       witness := [List.replicate 32 0] }]
  output := outputs

/-- Modelled from the spec: `JobFactory::new_standard_job` (§4.2).  The next job id is taken
first; the job is future when there is no chain tip, and active from the tip's header
timestamp otherwise. -/
def JobFactory.newStandardJob (sha256d : List UInt8 → Hash32) (self : JobFactory)
    (channelId : UInt32) (chainTip : Option ChainTip) (extranoncePrefix : List UInt8)
    (template : NewTemplate) (coinbaseRewardOutputs : List TxOut) :
    Except JobFactoryError StandardJob × JobFactory :=
  let jobId := self.lastJobId + 1
  let factory : JobFactory := ⟨jobId⟩
  if template.coinbaseTxValueRemaining.toNat < (coinbaseRewardOutputs.map (·.value.toNat)).sum then
    (.error .valueOverflow, factory)
  else
    match decodeTxOuts template.coinbaseTxOutputsCount.toNat template.coinbaseTxOutputs with
    | none => (.error .encodingFailure, factory)
    | some (templateOutputs, _) =>
        let outputs := coinbaseRewardOutputs ++ templateOutputs
        let coinbase := JobFactory.coinbase template extranoncePrefix outputs
        let merkleRoot :=
          merkleRootFromPath sha256d (coinbase.computeTxid sha256d) template.merklePath
        (.ok { template
               extranoncePrefix
               coinbaseOutputs := outputs
               jobMessage :=
                 { channelId
                   jobId
                   minNtime := chainTip.map (·.headerTimestamp)
                   version := template.version
                   merkleRoot } },
          factory)

/-- A job as the factory builds it: its merkle root commits to the coinbase made of its own
template, extranonce prefix and outputs. -/
def StandardJob.FromFactory (sha256d : List UInt8 → Hash32) (job : StandardJob) : Prop :=
  job.jobMessage.merkleRoot =
    merkleRootFromPath sha256d
      ((JobFactory.coinbase job.template job.extranoncePrefix job.coinbaseOutputs).computeTxid
        sha256d)
      job.template.merklePath

@[simp] theorem StandardJob.fromFactory_activate {sha256d : List UInt8 → Hash32}
    {job : StandardJob} (t : UInt32) :
    (job.activate t).FromFactory sha256d ↔ job.FromFactory sha256d :=
  Iff.rfl

/-- Everything the factory hands out: the next job id, and on success a job built from the
given chain tip, prefix and template, whose outputs start with the reward outputs. -/
theorem JobFactory.newStandardJob_spec {sha256d : List UInt8 → Hash32} {self : JobFactory}
    {channelId : UInt32} {chainTip : Option ChainTip} {extranoncePrefix : List UInt8}
    {template : NewTemplate} {coinbaseRewardOutputs : List TxOut}
    {r : Except JobFactoryError StandardJob} {factory : JobFactory}
    (h : self.newStandardJob sha256d channelId chainTip extranoncePrefix template
      coinbaseRewardOutputs = (r, factory)) :
    factory.lastJobId = self.lastJobId + 1 ∧
      ∀ job, r = .ok job →
        job.jobId = self.lastJobId + 1 ∧ job.template = template ∧
          job.extranoncePrefix = extranoncePrefix ∧
          job.jobMessage.minNtime = chainTip.map (·.headerTimestamp) ∧
          (∃ templateOutputs, job.coinbaseOutputs = coinbaseRewardOutputs ++ templateOutputs) ∧
          job.FromFactory sha256d := by
  unfold newStandardJob at h
  split_ifs at h
  · cases h; exact ⟨rfl, fun _ h => nomatch h⟩
  · split at h <;> cases h
    · exact ⟨rfl, fun _ h => nomatch h⟩
    · refine ⟨rfl, fun job h => ?_⟩
      cases h
      exact ⟨rfl, rfl, rfl, rfl, ⟨_, rfl⟩, rfl⟩

end StratumV2
