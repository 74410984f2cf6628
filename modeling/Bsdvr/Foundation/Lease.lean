import Mathlib

namespace Foundation

/-! ## Leases

A table holds keys with deadlines, and a key that is heard holds its lease for `span` from then on. -/

section Lease
variable {κ τ : Type*} [Add τ] [LinearOrder τ] {span now later : τ}
  {held after : κ → τ → Prop} {heard : κ → Option τ}

/-- A table holds the leases of the keys that were heard at most `span` ago, and no lease of a key
that was not heard. -/
structure Watches (span now : τ) (held : κ → τ → Prop) (heard : κ → Option τ) : Prop where
  past : ∀ key time, heard key = some time → time ≤ now
  exact : ∀ key deadline, held key deadline → ∃ time, heard key = some time ∧ deadline = time + span
  kept : ∀ key time, heard key = some time → now ≤ time + span → held key (time + span)

namespace Watches

theorem advance (watches : Watches span now held heard) (passed : now ≤ later) :
    Watches span later held heard where
  past key time known := (watches.past key time known).trans passed
  exact := watches.exact
  kept key time known alive := watches.kept key time known (passed.trans alive)

theorem renews [AddRightMono τ] (watches : Watches span now held heard) {key : κ} {deadline : τ}
    (holds : held key deadline) :
    max (now + span) deadline = now + span := by
  obtain ⟨time, known, rfl⟩ := watches.exact key deadline holds
  exact max_eq_left (add_le_add_left (watches.past key time known) span)

theorem hear [DecidableEq κ] (watches : Watches span now held heard) (key : κ)
    (renewed : ∀ deadline, after key deadline ↔ deadline = now + span)
    (others : ∀ other deadline, other ≠ key → (after other deadline ↔ held other deadline)) :
    Watches span now after (Function.update heard key (some now)) where
  past other time known := by
    by_cases same : other = key
    · rw [same, Function.update_self] at known
      exact (Option.some.inj known).ge
    · rw [Function.update_of_ne same] at known
      exact watches.past other time known
  exact other deadline holds := by
    by_cases same : other = key
    · subst same
      exact ⟨now, Function.update_self .., (renewed deadline).mp holds⟩
    · rw [Function.update_of_ne same]
      exact watches.exact other deadline ((others other deadline same).mp holds)
  kept other time known alive := by
    by_cases same : other = key
    · subst same
      rw [Function.update_self] at known
      obtain rfl := Option.some.inj known
      exact (renewed _).mpr rfl
    · rw [Function.update_of_ne same] at known
      exact (others other _ same).mpr (watches.kept other time known alive)

theorem sweep (watches : Watches span now held heard)
    (fewer : ∀ key deadline, after key deadline → held key deadline)
    (spared : ∀ key deadline, held key deadline → now ≤ deadline → after key deadline) :
    Watches span now after heard where
  past := watches.past
  exact key deadline holds := watches.exact key deadline (fewer key deadline holds)
  kept key time known alive := spared key _ (watches.kept key time known alive) alive

theorem revoke (watches : Watches span now held heard) (gone : κ → Prop) [DecidablePred gone]
    (rest : ∀ key deadline, after key deadline ↔ ¬gone key ∧ held key deadline) :
    Watches span now after fun key => if gone key then none else heard key where
  past key time known := by
    split at known
    · cases known
    · exact watches.past key time known
  exact key deadline holds := by
    obtain ⟨stays, holds⟩ := (rest key deadline).mp holds
    rw [if_neg stays]
    exact watches.exact key deadline holds
  kept key time known alive := by
    split at known
    · cases known
    · rename_i stays
      exact (rest key _).mpr ⟨stays, watches.kept key time known alive⟩

/-- A table that is swept every `delay` holds no lease of a key that was not heard for longer than
`span + delay`. -/
theorem heard_within (watches : Watches span now held heard) {delay due : τ} {key : κ}
    {deadline : τ} (holds : held key deadline) (swept : due ≤ deadline + delay) (soon : now ≤ due) :
    ∃ time, heard key = some time ∧ deadline = time + span ∧ now ≤ time + span + delay := by
  obtain ⟨time, known, rfl⟩ := watches.exact key deadline holds
  exact ⟨time, known, rfl, soon.trans swept⟩

end Watches

end Lease

/-! ## Beacons -/

/-- Where beacons are due every `interval` and each one is heard within `slack`, the last was heard
no longer ago than both together. -/
theorem heard_within_interval {first interval slack count now heard : ℕ}
    (due : now ≤ first + count * interval) (begun : first ≤ heard)
    (served : ∀ j < count, first + j * interval + slack < now → first + j * interval ≤ heard) :
    now ≤ heard + interval + slack := by
  by_contra late
  have all : ∀ j ≤ count, first + j * interval ≤ heard + interval := by
    intro j
    induction j with
    | zero => omega
    | succ j ih =>
        intro within
        have before := ih (Nat.le_of_succ_le within)
        have known := served j within (by omega)
        rw [Nat.succ_mul]
        omega
  have last := all count le_rfl
  omega

end Foundation
