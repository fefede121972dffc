import StratumV2.Encoding

/-!
# Stratum V2: share accounting

`ShareAccounting` is not among the sources; this one follows the spec (§3, §4.4).  It keeps the
set of hashes it has credited, the number of credited shares and the sum of their work (`u64`
counters, which wrap as in Rust's release profile), the sequence number of the last credited
share, the best difficulty seen and the batch size of acknowledgements.

`should_acknowledge` takes `shares_accepted % share_batch_size`; a zero batch size makes that
remainder panic, which `shouldAcknowledge` returns as `none`.
-/

namespace StratumV2

/-- Modelled from the spec: `ShareAccounting`, which is not among the sources. -/
structure ShareAccounting where
  lastShareSequenceNumber : UInt32
  sharesAccepted : UInt64
  shareWorkSum : UInt64
  shareBatchSize : Nat
  seenShares : Finset Hash32
  bestDiff : Float

namespace ShareAccounting

/-- Modelled from the spec: `ShareAccounting::new`, with nothing credited yet. -/
def new (shareBatchSize : Nat) : ShareAccounting :=
  ⟨0, 0, 0, shareBatchSize, ∅, 0.0⟩

/-- Modelled from the spec: `update_share_accounting`, one credit for the share `shareHash`. -/
def updateShareAccounting (self : ShareAccounting) (shareWork : UInt64)
    (shareSequenceNumber : UInt32) (shareHash : Hash32) : ShareAccounting :=
  { self with
    lastShareSequenceNumber := shareSequenceNumber
    sharesAccepted := self.sharesAccepted + 1
    shareWorkSum := self.shareWorkSum + shareWork
    seenShares := insert shareHash self.seenShares }

/-- Modelled from the spec: `is_share_seen`. -/
def isShareSeen (self : ShareAccounting) (shareHash : Hash32) : Bool :=
  decide (shareHash ∈ self.seenShares)

/-- Modelled from the spec: `update_best_diff`, a monotone maximum. -/
def updateBestDiff (self : ShareAccounting) (diff : Float) : ShareAccounting :=
  { self with bestDiff := if diff > self.bestDiff then diff else self.bestDiff }

/-- Modelled from the spec: `should_acknowledge`; `none` is the panic of the remainder by a
zero batch size. -/
def shouldAcknowledge (self : ShareAccounting) : Option Bool :=
  if self.shareBatchSize = 0 then none
  else some (self.sharesAccepted.toNat % self.shareBatchSize == 0 && 0 < self.sharesAccepted)

section Fields

variable (a : ShareAccounting) (w : UInt64) (n : UInt32) (h : Hash32) (d : Float)

@[simp] theorem sharesAccepted_update :
    (a.updateShareAccounting w n h).sharesAccepted = a.sharesAccepted + 1 := rfl

@[simp] theorem shareWorkSum_update :
    (a.updateShareAccounting w n h).shareWorkSum = a.shareWorkSum + w := rfl

@[simp] theorem seenShares_update :
    (a.updateShareAccounting w n h).seenShares = insert h a.seenShares := rfl

@[simp] theorem lastShareSequenceNumber_update :
    (a.updateShareAccounting w n h).lastShareSequenceNumber = n := rfl

@[simp] theorem shareBatchSize_update :
    (a.updateShareAccounting w n h).shareBatchSize = a.shareBatchSize := rfl

@[simp] theorem sharesAccepted_updateBestDiff :
    (a.updateBestDiff d).sharesAccepted = a.sharesAccepted := rfl

@[simp] theorem shareWorkSum_updateBestDiff :
    (a.updateBestDiff d).shareWorkSum = a.shareWorkSum := rfl

@[simp] theorem seenShares_updateBestDiff :
    (a.updateBestDiff d).seenShares = a.seenShares := rfl

@[simp] theorem lastShareSequenceNumber_updateBestDiff :
    (a.updateBestDiff d).lastShareSequenceNumber = a.lastShareSequenceNumber := rfl

@[simp] theorem shareBatchSize_updateBestDiff :
    (a.updateBestDiff d).shareBatchSize = a.shareBatchSize := rfl

@[simp] theorem isShareSeen_iff : a.isShareSeen h = true ↔ h ∈ a.seenShares := by
  simp [isShareSeen]

@[simp] theorem shouldAcknowledge_updateBestDiff :
    (a.updateBestDiff d).shouldAcknowledge = a.shouldAcknowledge := rfl

end Fields

/-- `should_acknowledge` panics exactly on a zero batch size, and otherwise says whether the
number of credited shares is a positive multiple of it. -/
theorem shouldAcknowledge_eq_some_iff {a : ShareAccounting} {b : Bool} :
    a.shouldAcknowledge = some b ↔
      0 < a.shareBatchSize ∧
        (b = true ↔ a.sharesAccepted.toNat % a.shareBatchSize = 0 ∧ 0 < a.sharesAccepted) := by
  unfold shouldAcknowledge
  split_ifs with h
  · simp [h]
  · cases b <;> simp [Nat.pos_of_ne_zero h]

/-- With a positive batch size, `should_acknowledge` answers whether the number of credited
shares is a positive multiple of it. -/
theorem shouldAcknowledge_of_pos {a : ShareAccounting} (h : 0 < a.shareBatchSize) :
    a.shouldAcknowledge =
      some (decide (a.sharesAccepted.toNat % a.shareBatchSize = 0 ∧ 0 < a.sharesAccepted)) :=
  shouldAcknowledge_eq_some_iff.mpr ⟨h, decide_eq_true_iff⟩

theorem shouldAcknowledge_eq_none_iff {a : ShareAccounting} :
    a.shouldAcknowledge = none ↔ a.shareBatchSize = 0 := by
  unfold shouldAcknowledge
  split_ifs with h <;> simp [h]

end ShareAccounting

end StratumV2
