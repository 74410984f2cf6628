import Bsdvr.Foundation.Run

namespace Foundation

universe u v

/-! ## What a run spends -/

section Spending
variable {σ : Type u} {ι : Type v} {next : σ → ι → Option σ} {ok : σ → ι → Prop} {start : σ}

def spending (next : σ → ι → Option σ) (cost : σ → ι → ℕ) : σ × ℕ → ι → Option (σ × ℕ) :=
  recording next fun state input spent => spent + cost state input

/-- Where each step is paid from a credit, a run spends no more than the credit it starts with. -/
theorem spent_le {cost : σ → ι → ℕ} (credit : σ → ℕ) {P : σ → Prop} (initial : P start)
    (preserved : ∀ before input after, P before → ok before input → next before input = some after → P after)
    (pays : ∀ before input after, P before → ok before input → next before input = some after →
      cost before input + credit after ≤ credit before)
    {state : σ × ℕ} (reach : Reach (spending next cost) (fun state input => ok state.1 input) (start, 0) state) :
    state.2 + credit state.1 ≤ credit start := by
  have both : P state.1 ∧ state.2 + credit state.1 ≤ credit start := by
    refine reach.invariant (P := fun state => P state.1 ∧ state.2 + credit state.1 ≤ credit start)
      ⟨initial, (Nat.zero_add _).le⟩ ?_
    rintro before input after ⟨holds, bound⟩ allowed taken
    obtain ⟨stepped, recorded⟩ := recording_eq_some taken
    have paid := pays before.1 input after.1 holds allowed stepped
    refine ⟨preserved before.1 input after.1 holds allowed stepped, ?_⟩
    calc after.2 + credit after.1 = before.2 + (cost before.1 input + credit after.1) := by rw [recorded, Nat.add_assoc]
      _ ≤ before.2 + credit before.1 := Nat.add_le_add_left paid _
      _ ≤ credit start := bound
  exact both.2

/-- Where every state that is not done can step to a smaller one, some run gets done. -/
theorem exists_reach_of_decreasing (measure : σ → ℕ) {P done : σ → Prop} {state : σ}
    (progress : ∀ before, P before → ¬done before → ∃ input after, ok before input ∧
      next before input = some after ∧ P after ∧ measure after < measure before)
    (holds : P state) : ∃ last, Reach next ok state last ∧ P last ∧ done last := by
  induction bound : measure state using Nat.strong_induction_on generalizing state with
  | h size ih =>
      by_cases finished : done state
      · exact ⟨state, .start, holds, finished⟩
      · obtain ⟨input, after, allowed, taken, kept, smaller⟩ := progress state holds finished
        obtain ⟨last, rest, final, finished⟩ := ih _ (bound ▸ smaller) kept rfl
        have first : Reach next ok state after := Reach.start.step allowed taken
        exact ⟨last, first.trans rest, final, finished⟩

end Spending

theorem sum_add_le_of_share {κ : Type*} [Fintype κ] [DecidableEq κ] {before after : κ → ℕ}
    {payer : κ} (others : ∀ other, other ≠ payer → after other = before other) {spent gained : ℕ}
    (pays : spent + after payer ≤ before payer + gained) :
    spent + ∑ key, after key ≤ ∑ key, before key + gained := by
  rw [← Finset.add_sum_erase _ after (Finset.mem_univ payer),
    ← Finset.add_sum_erase _ before (Finset.mem_univ payer)]
  have rest : ∑ key ∈ Finset.univ.erase payer, after key =
      ∑ key ∈ Finset.univ.erase payer, before key :=
    Finset.sum_congr rfl fun other member => others other (Finset.ne_of_mem_erase member)
  omega

end Foundation
