import Mathlib

namespace Foundation

universe u
variable {V : Type u}

/-- Estimates of the distance to a target: each is the length of a walk, neighbours of the target
have the right one, and no vertex is off by more than one from a neighbour. -/
structure Relaxed (graph : SimpleGraph V) (target : V) (estimate : V → Option ℕ) : Prop where
  sound : ∀ x k, x ≠ target → estimate x = some k → ∃ walk : graph.Walk x target, walk.length = k
  adjacent : ∀ x, graph.Adj x target → estimate x = some 1
  relaxed : ∀ x y k, graph.Adj x y → x ≠ target → y ≠ target → estimate y = some k →
    ∃ j, estimate x = some j ∧ j ≤ k + 1

variable {graph : SimpleGraph V} {target : V} {estimate : V → Option ℕ}

theorem Relaxed.exists_le (relaxed : Relaxed graph target estimate) {x : V}
    (walk : graph.Walk x target) (apart : x ≠ target) :
    ∃ k, estimate x = some k ∧ k ≤ walk.length := by
  induction walk with
  | nil => exact absurd rfl apart
  | @cons x y target link rest ih =>
      by_cases last : y = target
      · subst last
        exact ⟨1, relaxed.adjacent x link, by simp⟩
      · obtain ⟨k, known, le⟩ := ih relaxed last
        obtain ⟨j, here, bound⟩ := relaxed.relaxed x y k link apart last known
        exact ⟨j, here, by rw [SimpleGraph.Walk.length_cons]; omega⟩

theorem Relaxed.eq_dist (relaxed : Relaxed graph target estimate) {x : V}
    (reachable : graph.Reachable x target) (apart : x ≠ target) :
    estimate x = some (graph.dist x target) := by
  obtain ⟨shortest, length⟩ := reachable.exists_walk_length_eq_dist
  obtain ⟨k, known, le⟩ := relaxed.exists_le shortest apart
  obtain ⟨walk, same⟩ := relaxed.sound x k apart known
  have lower := SimpleGraph.dist_le walk
  rw [known, show k = graph.dist x target by omega]

end Foundation
