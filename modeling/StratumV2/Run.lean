import StratumV2.ValidateShare

/-!
# Stratum V2: runs of channel calls

The public calls on a standard channel as one type, `ChannelOp`, and runs of calls: `runOps`
applies a sequence of calls and stops at the first one that panics.  A call that returns an
error still yields the channel as it left it, and the run goes on from there.

`runOps_invariant` is the induction over runs used for every property of reachable channels:
a property that the allowed calls preserve holds after any run of allowed calls.
-/

namespace StratumV2

/-- A public call on a standard channel. -/
inductive ChannelOp
  | onNewTemplate (template : NewTemplate) (coinbaseRewardOutputs : List TxOut)
  | onSetNewPrevHash (setNewPrevHash : SetNewPrevHash)
  | validateShare (share : SubmitSharesStandard)
  | updateChannel (nominalHashrate : Float) (requestedMaxTarget : Option Target)
  | setExtranoncePrefix (extranoncePrefix : List UInt8)
  | setTarget (target : Target)
  | setNominalHashrate (nominalHashrate : Float)

namespace ChannelOp

/-- The channel after the call, or `none` when the call panics. -/
def run (P : Primitives) (s : StandardChannel) : ChannelOp → Option StandardChannel
  | .onNewTemplate template outputs => some (s.onNewTemplate P template outputs).2
  | .onSetNewPrevHash m => some (s.onSetNewPrevHash m).2
  | .validateShare share => (s.validateShare P share).map Prod.snd
  | .updateChannel hashrate maxTarget => some (s.updateChannel P hashrate maxTarget).2
  | .setExtranoncePrefix p => some (s.setExtranoncePrefix p).2
  | .setTarget target => some (s.setTarget target)
  | .setNominalHashrate hashrate => some (s.setNominalHashrate hashrate)

theorem run_validateShare {P : Primitives} {s s' : StandardChannel}
    {share : SubmitSharesStandard} :
    (validateShare share).run P s = some s' ↔ ∃ r, s.validateShare P share = some (r, s') := by
  simp [run]

/-- The call is `set_target`. -/
def isSetTarget : ChannelOp → Bool
  | .setTarget _ => true
  | _ => false

/-- The call is `on_new_template`. -/
def isOnNewTemplate : ChannelOp → Bool
  | .onNewTemplate _ _ => true
  | _ => false

/-- Only `on_new_template` changes the job factory, only `validate_share` the share accounting,
and besides `set_target` only `update_channel` the target, within the requested maximum. -/
theorem run_frame {P : Primitives} {s s' : StandardChannel} {op : ChannelOp}
    (h : op.run P s = some s') :
    (op.isOnNewTemplate = false → s'.jobFactory = s.jobFactory) ∧
    (s'.shareAccounting = s.shareAccounting ∨
      ∃ share r, s.validateShare P share = some (r, s')) ∧
    (op.isSetTarget = false →
      s'.target = s.target ∧ s'.requestedMaxTarget = s.requestedMaxTarget ∨
        s'.target ≤ s'.requestedMaxTarget) := by
  cases op with
  | onNewTemplate t o =>
      cases h
      obtain ⟨_, _, he⟩ := StandardChannel.onNewTemplate_shape (P := P) (s := s) t o
      rw [he]; exact ⟨fun h => (nomatch h), .inl rfl, fun _ => .inl ⟨rfl, rfl⟩⟩
  | onSetNewPrevHash m =>
      cases h
      obtain ⟨_, _, he⟩ := StandardChannel.onSetNewPrevHash_shape (s := s) m
      rw [he]; exact ⟨fun _ => rfl, .inl rfl, fun _ => .inl ⟨rfl, rfl⟩⟩
  | validateShare share =>
      obtain ⟨r, hv⟩ := run_validateShare.mp h
      obtain ⟨_, rfl⟩ := StandardChannel.validateShare_shape hv
      exact ⟨fun _ => rfl, .inr ⟨share, r, hv⟩, fun _ => .inl ⟨rfl, rfl⟩⟩
  | updateChannel hashrate m =>
      cases h
      rcases StandardChannel.updateChannel_cases
          (Prod.mk.eta (p := s.updateChannel P hashrate m)).symm with
        ⟨-, -, he⟩ | ⟨_, -, ht, -, he⟩ <;> rw [he]
      · exact ⟨fun _ => rfl, .inl rfl, fun _ => .inl ⟨rfl, rfl⟩⟩
      · exact ⟨fun _ => rfl, .inl rfl, fun _ => .inr ht⟩
  | setExtranoncePrefix p =>
      cases h
      obtain ⟨_, he⟩ := StandardChannel.setExtranoncePrefix_shape (s := s) p
      rw [he]; exact ⟨fun _ => rfl, .inl rfl, fun _ => .inl ⟨rfl, rfl⟩⟩
  | setTarget _ => cases h; exact ⟨fun _ => rfl, .inl rfl, fun h => (nomatch h)⟩
  | setNominalHashrate _ =>
      cases h; exact ⟨fun _ => rfl, .inl rfl, fun _ => .inl ⟨rfl, rfl⟩⟩

end ChannelOp

/-- The channel after a sequence of calls, or `none` when one of them panics. -/
def runOps (P : Primitives) : StandardChannel → List ChannelOp → Option StandardChannel
  | s, [] => some s
  | s, op :: ops => (op.run P s).bind fun s' => runOps P s' ops

@[simp] theorem runOps_nil (P : Primitives) (s : StandardChannel) : runOps P s [] = some s :=
  rfl

theorem runOps_cons {P : Primitives} {s s' : StandardChannel} {op : ChannelOp}
    {ops : List ChannelOp} :
    runOps P s (op :: ops) = some s' ↔
      ∃ s₁, op.run P s = some s₁ ∧ runOps P s₁ ops = some s' :=
  Option.bind_eq_some

theorem runOps_append {P : Primitives} {s : StandardChannel} {ops₁ ops₂ : List ChannelOp} :
    runOps P s (ops₁ ++ ops₂) = (runOps P s ops₁).bind fun s₁ => runOps P s₁ ops₂ := by
  induction ops₁ generalizing s with
  | nil => rfl
  | cons op ops ih =>
      show ((op.run P s).bind fun s' => runOps P s' (ops ++ ops₂)) = _
      simp only [ih, runOps, Option.bind_assoc]

/-- A property kept by every allowed call holds after every run of allowed calls. -/
theorem runOps_invariant {P : Primitives} {I : StandardChannel → Prop}
    {allowed : ChannelOp → Prop}
    (hstep : ∀ s op s', allowed op → I s → op.run P s = some s' → I s')
    {s s' : StandardChannel} {ops : List ChannelOp} (hops : ∀ op ∈ ops, allowed op)
    (hs : I s) (h : runOps P s ops = some s') : I s' := by
  induction ops generalizing s with
  | nil => cases h; exact hs
  | cons op ops ih =>
      obtain ⟨s₁, h₁, h₂⟩ := runOps_cons.mp h
      exact ih (fun o ho => hops o (List.mem_cons_of_mem op ho))
        (hstep s op s₁ (hops op (List.mem_cons_self op ops)) hs h₁) h₂

/-- A property kept by every call holds after every run. -/
theorem runOps_invariant_of_step {P : Primitives} {I : StandardChannel → Prop}
    (hstep : ∀ s (op : ChannelOp) s', I s → op.run P s = some s' → I s')
    {s s' : StandardChannel}
    {ops : List ChannelOp} (hs : I s) (h : runOps P s ops = some s') : I s' :=
  runOps_invariant (fun s op s' (_ : True) => hstep s op s') (fun _ _ => trivial) hs h

/-! ## Sample primitives and runs

Sample primitives whose double SHA-256 is a constant, so that whether a share meets each target
is fixed in advance, and sample runs after the tests of `standard.rs`: their template under other
ids, with their reward output, which pays the template's whole coinbase value.  A run with these
primitives follows the channel's control flow, which does not depend on the hash's value. -/

/-- Primitives whose double SHA-256 is the constant `hash`, whose network target is
`networkTarget` for every `nbits`, and whose hashrate conversion always gives `channelTarget`. -/
def Primitives.constant (hash : Hash32) (networkTarget channelTarget : Target) : Primitives where
  sha256d := fun _ => hash
  fromCompact := fun _ => networkTarget
  hashRateToTarget := fun _ _ => some channelTarget
  targetToDifficulty := fun _ => 1.0

/-- The hash whose little-endian value is `1`. -/
def Hash32.one : Hash32 :=
  ⟨1 :: List.replicate 31 0, rfl⟩

/-- The extranonce prefix of the channels in the tests of `standard.rs`. -/
def sampleExtranoncePrefix : List UInt8 :=
  [83, 116, 114, 97, 116, 117, 109, 32, 86, 50, 32, 83, 82, 73, 32, 80, 111, 111, 108, 0,
    0, 0, 0, 0, 0, 0, 0, 0, 0, 0, 0, 1]

/-- The template of the tests of `standard.rs` under another id and kind, without coinbase
outputs of its own. -/
def sampleTemplate (templateId : UInt64) (futureTemplate : Bool) : NewTemplate where
  templateId := templateId
  futureTemplate := futureTemplate
  version := 536870912
  coinbaseTxVersion := 2
  coinbasePrefix := [2, 159, 0, 0]
  coinbaseTxInputSequence := 4294967294
  coinbaseTxValueRemaining := 5000000000
  coinbaseTxOutputsCount := 0
  coinbaseTxOutputs := []
  coinbaseTxLocktime := 158
  merklePath := []

/-- The reward output of the tests of `standard.rs`: the template's whole coinbase value,
5000000000 satoshis, to a version-0 witness program of 20 bytes. -/
def sampleRewardOutputs : List TxOut :=
  [⟨5000000000, [0, 20, 235, 225, 183, 220, 194, 147, 204, 170, 14, 231, 67, 168, 111, 137, 223,
    130, 88, 194, 8, 252]⟩]

/-- The target with value `n` (modulo `2 ^ 256`). -/
def targetOf (n : Nat) : Target :=
  ⟨n % 2 ^ 256, Nat.mod_lt _ (Nat.two_pow_pos 256)⟩

/-- The largest target, `[0xff; 32]`. -/
def maxTarget : Target :=
  targetOf (2 ^ 256 - 1)

/-- Every header hashes to `1`, which meets the network target: every share finds a block.
Every hashrate gives the channel target `2 ^ 200`. -/
def Primitives.everyShareABlock : Primitives :=
  Primitives.constant Hash32.one maxTarget (targetOf (2 ^ 200))

/-- A future job for template 1, activated by its `SetNewPrevHash`. -/
def activatedJobRun : List ChannelOp :=
  [.onNewTemplate (sampleTemplate 1 true) sampleRewardOutputs,
    .onSetNewPrevHash ⟨1, Hash32.zero, 1000, 0x1d00ffff⟩]

/-- A share of job 1. -/
def sampleShare : SubmitSharesStandard :=
  ⟨0, 1, 3, 2001, 536870912⟩

/-- Every header hashes to `1`, above the network target `0` and within the channel target
`2 ^ 200`: every share meets the channel target and none finds a block. -/
def Primitives.noShareABlock : Primitives :=
  Primitives.constant Hash32.one (targetOf 0) (targetOf (2 ^ 200))

end StratumV2
