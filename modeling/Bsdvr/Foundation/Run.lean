import Mathlib

namespace Foundation

universe u v
variable {σ : Type u} {ι : Type v}

/-- The states a partial transition function reaches from `start` by inputs that all meet `ok`
in the state they are taken in. -/
inductive Reach (next : σ → ι → Option σ) (ok : σ → ι → Prop) (start : σ) : σ → Prop
  | start : Reach next ok start start
  | step {before after : σ} {input : ι} : Reach next ok start before → ok before input →
      next before input = some after → Reach next ok start after

variable {next : σ → ι → Option σ} {ok : σ → ι → Prop} {start : σ}

theorem Reach.invariant {P : σ → Prop} (initial : P start)
    (preserved : ∀ before input after, P before → ok before input →
      next before input = some after → P after)
    {state : σ} (reach : Reach next ok start state) : P state := by
  induction reach with
  | start => exact initial
  | step _ allowed taken ih => exact preserved _ _ _ ih allowed taken

theorem Reach.mono {weaker : σ → ι → Prop}
    (weaken : ∀ state input, ok state input → weaker state input)
    {state : σ} (reach : Reach next ok start state) : Reach next weaker start state := by
  induction reach with
  | start => exact .start
  | step _ allowed taken ih => exact .step ih (weaken _ _ allowed) taken

def guarded (enabled : σ → ι → Prop) [∀ state input, Decidable (enabled state input)]
    (handle : σ → ι → σ) (state : σ) (input : ι) : Option σ :=
  if enabled state input then some (handle state input) else none

theorem guarded_eq_some (enabled : σ → ι → Prop) [∀ state input, Decidable (enabled state input)]
    (handle : σ → ι → σ) {before after : σ} {input : ι}
    (taken : guarded enabled handle before input = some after) :
    enabled before input ∧ handle before input = after :=
  (Option.ite_none_right_eq_some.mp taken).imp_right Option.some.inj

/-- Execute a list of inputs, giving up where one is refused or does not meet the guard. -/
def follow (next : σ → ι → Option σ) (ok : σ → ι → Prop)
    [∀ state input, Decidable (ok state input)] :
    σ → List ι → Option σ
  | state, [] => some state
  | state, input :: rest =>
      if ok state input then (next state input).bind fun after => follow next ok after rest
      else none

theorem reach_of_follow [∀ state input, Decidable (ok state input)] {inputs : List ι}
    {before after : σ} (earlier : Reach next ok start before)
    (followed : follow next ok before inputs = some after) :
    Reach next ok start after := by
  induction inputs generalizing before with
  | nil =>
      cases followed
      exact earlier
  | cons input rest ih =>
      simp only [follow] at followed
      split at followed
      · rename_i allowed
        obtain ⟨middle, taken, remaining⟩ := Option.bind_eq_some_iff.mp followed
        exact ih (earlier.step allowed taken) remaining
      · cases followed

theorem exists_reach_of_follow (next : σ → ι → Option σ) (ok : σ → ι → Prop)
    [∀ state input, Decidable (ok state input)] (start : σ) (inputs : List ι)
    (check : σ → Bool) (checked : (follow next ok start inputs).any check = true) :
    ∃ state, Reach next ok start state ∧ check state = true := by
  cases followed : follow next ok start inputs with
  | none => simp [followed] at checked
  | some state => exact ⟨state, reach_of_follow .start followed, by simpa [followed] using checked⟩

/-! ## History variables -/

/-- A transition function with a history, which `record` extends by each input that is taken. It
refuses no input. -/
def recording {η : Type*} (next : σ → ι → Option σ) (record : σ → ι → η → η) (state : σ × η)
    (input : ι) : Option (σ × η) :=
  (next state.1 input).map fun after => (after, record state.1 input state.2)

section Recording
variable {η : Type*} {record : σ → ι → η → η} {history : η}

theorem recording_eq_some {before after : σ × η} {input : ι}
    (taken : recording next record before input = some after) :
    next before.1 input = some after.1 ∧ after.2 = record before.1 input before.2 := by
  obtain ⟨state, stepped, rfl⟩ := Option.map_eq_some_iff.mp taken
  exact ⟨stepped, rfl⟩

theorem Reach.forget {state : σ × η}
    (reach : Reach (recording next record) (fun state input => ok state.1 input) (start,
      history) state) :
    Reach next ok start state.1 := by
  induction reach with
  | start => exact .start
  | step _ allowed taken ih => exact ih.step allowed (recording_eq_some taken).1

end Recording

/-! ## Simulations -/

theorem Reach.trans {middle state : σ} (first : Reach next ok start middle)
    (second : Reach next ok middle state) :
    Reach next ok start state := by
  induction second with
  | start => exact first
  | step _ allowed taken ih => exact ih.step allowed taken

/-- Where each step of a machine is a run of another one, so is each run. -/
theorem Reach.simulate {τ κ : Type*} {concrete : τ → κ → Option τ} {may : τ → κ → Prop}
    (abstraction : τ → σ)
    (matched : ∀ before input after, concrete before input = some after →
      Reach next ok (abstraction before) (abstraction after))
    {begin state : τ} (reach : Reach concrete may begin state) :
    Reach next ok (abstraction begin) (abstraction state) := by
  induction reach with
  | start => exact .start
  | step _ _ taken ih => exact ih.trans (matched _ _ _ taken)

/-! ## Representations -/

/-- Where `concrete` does on representations what `next` does on states, its runs are the runs of
`next`, represented. -/
theorem reach_represent_iff {τ : Type*} {concrete : τ → ι → Option τ} (represent : σ → τ)
    (commutes : ∀ state input, concrete (represent state) input = (next state input).map represent)
    {ok : τ → ι → Prop} {image : τ} :
    Reach concrete ok (represent start) image ↔
      ∃ state, Reach next (fun state input => ok (represent state) input) start state ∧
      represent state = image := by
  constructor
  · intro reach
    induction reach with
    | start => exact ⟨start, .start, rfl⟩
    | step _ allowed taken ih =>
        obtain ⟨state, earlier, rfl⟩ := ih
        rw [commutes] at taken
        obtain ⟨after, moved, rfl⟩ := Option.map_eq_some_iff.mp taken
        exact ⟨after, earlier.step allowed moved, rfl⟩
  · rintro ⟨state, reach, rfl⟩
    induction reach with
    | start => exact .start
    | step _ allowed taken ih => exact ih.step allowed (by rw [commutes, taken]; rfl)

end Foundation
