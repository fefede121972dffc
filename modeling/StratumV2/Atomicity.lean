import StratumV2.Run

/-!
# Stratum V2: failed calls change nothing

Every fallible call of the channel checks before it writes: `set_extranonce_prefix` checks the
length, `update_channel` computes and checks the new target, `on_set_new_prev_hash` checks for
future jobs, and `validate_share` rejects a share before it credits anything.  The one write
before a failure is the job factory's: `on_new_template` asks the factory for a job, and the
factory has taken the next job id by the time it fails.

**Results.**
* `failed_call_leaves_channel_unchanged`: for every channel state, a call of any fallible
  operation that returns an error leaves the channel exactly as it was, the job factory's
  counter aside.
-/

namespace StratumV2

namespace StandardChannel

theorem setExtranoncePrefix_error {s s' : StandardChannel} {p : List UInt8}
    {e : StandardChannelError} (h : s.setExtranoncePrefix p = (.error e, s')) : s' = s := by
  rcases setExtranoncePrefix_cases h with ⟨-, -, rfl⟩ | ⟨-, hr, -⟩
  · rfl
  · cases hr

theorem updateChannel_error {P : Primitives} {s s' : StandardChannel} {hashrate : Float}
    {m : Option Target} {e : StandardChannelError}
    (h : s.updateChannel P hashrate m = (.error e, s')) : s' = s := by
  rcases updateChannel_cases h with ⟨-, -, rfl⟩ | ⟨-, -, -, hr, -⟩
  · rfl
  · cases hr

theorem onNewTemplate_error {P : Primitives} {s s' : StandardChannel} {t : NewTemplate}
    {o : List TxOut} {e : StandardChannelError} (h : s.onNewTemplate P t o = (.error e, s')) :
    { s' with jobFactory := s.jobFactory } = s := by
  rcases onNewTemplate_cases h with ⟨-, -, -, rfl, -⟩ | ⟨-, -, -, -, hr, -⟩ |
    ⟨-, -, -, -, -, -, hr, -⟩
  · rfl
  · cases hr
  · cases hr

theorem onSetNewPrevHash_error {s s' : StandardChannel} {m : SetNewPrevHash}
    {e : StandardChannelError} (h : s.onSetNewPrevHash m = (.error e, s')) : s' = s := by
  rcases onSetNewPrevHash_cases h with ⟨-, -, rfl⟩ | ⟨-, hr, -⟩
  · rfl
  · cases hr

end StandardChannel

open StandardChannel in
theorem failed_call_leaves_channel_unchanged (P : Primitives) (s : StandardChannel) :
    (∀ p e s', s.setExtranoncePrefix p = (.error e, s') → s' = s) ∧
    (∀ hashrate m e s', s.updateChannel P hashrate m = (.error e, s') → s' = s) ∧
    (∀ t o e s', s.onNewTemplate P t o = (.error e, s') →
      { s' with jobFactory := s.jobFactory } = s) ∧
    (∀ m e s', s.onSetNewPrevHash m = (.error e, s') → s' = s) ∧
    (∀ share e s', s.validateShare P share = some (.error e, s') → s' = s) :=
  ⟨fun _ _ _ => setExtranoncePrefix_error, fun _ _ _ _ => updateChannel_error,
    fun _ _ _ _ => onNewTemplate_error, fun _ _ _ => onSetNewPrevHash_error,
    fun _ _ _ => validateShare_error⟩

/-- A fresh channel refuses a 33-byte prefix, and a `SetNewPrevHash` since it has no future job;
neither call changes it. -/
theorem failed_call_leaves_channel_unchanged_of_refused_calls :
    ∃ s₀ s₁ s₂,
      StandardChannel.new .everyShareABlock 1 sampleExtranoncePrefix maxTarget 10.0 100 1.0
        JobStore.empty = .ok s₀ ∧
      s₀.setExtranoncePrefix (sampleExtranoncePrefix ++ [2]) =
        (.error .newExtranoncePrefixTooLarge, s₁) ∧ s₁ = s₀ ∧
      s₀.onSetNewPrevHash ⟨1, Hash32.one, 2000, 0x1d00ffff⟩ = (.error .templateIdNotFound, s₂) ∧
      s₂ = s₀ := by
  refine ⟨_, _, _, rfl, if_pos (by decide), ?_, if_pos (by decide), ?_⟩
  · exact (failed_call_leaves_channel_unchanged .everyShareABlock _).1
      (sampleExtranoncePrefix ++ [2]) .newExtranoncePrefixTooLarge _ (if_pos (by decide))
  · exact (failed_call_leaves_channel_unchanged .everyShareABlock _).2.2.2.1
      ⟨1, Hash32.one, 2000, 0x1d00ffff⟩ .templateIdNotFound _ (if_pos (by decide))

end StratumV2
