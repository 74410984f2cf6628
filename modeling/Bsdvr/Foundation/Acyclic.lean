import Mathlib

namespace Foundation

universe u
variable {α : Type u} {before after : α → α → Prop}

private theorem transGen_of_new_edges
    (new : ∀ a b, after a b → before a b ∨ (∀ c, ¬after c a) ∨ ∀ c, ¬after b c) {a b : α}
    (path : Relation.TransGen after a b) (entered : ∃ c, after c a) (left : ∃ c, after b c) :
    Relation.TransGen before a b := by
  obtain ⟨into, enters⟩ := entered
  induction path with
  | single edge =>
      obtain ⟨out, leaves⟩ := left
      rcases new _ _ edge with old | source | sink
      · exact .single old
      · exact absurd enters (source into)
      · exact absurd leaves (sink out)
  | @tail middle last path edge ih =>
      obtain ⟨out, leaves⟩ := left
      have earlier := ih ⟨last, edge⟩
      have reached : ∃ c, after c middle := by
        cases path with
        | single step => exact ⟨_, step⟩
        | tail _ step => exact ⟨_, step⟩
      rcases new _ _ edge with old | source | sink
      · exact earlier.tail old
      · exact absurd reached.choose_spec (source reached.choose)
      · exact absurd leaves (sink out)

/-- A graph stays acyclic where each new edge starts at a vertex nothing leads to or ends at a
vertex nothing leads from. -/
theorem acyclic_of_new_edges (acyclic : ∀ a, ¬Relation.TransGen before a a)
    (new : ∀ a b, after a b → before a b ∨ (∀ c, ¬after c a) ∨ ∀ c, ¬after b c) (a : α) :
    ¬Relation.TransGen after a a := by
  intro cycle
  have entered : ∃ c, after c a := by
    cases cycle with
    | single step => exact ⟨_, step⟩
    | tail _ step => exact ⟨_, step⟩
  have left : ∃ c, after a c := by
    cases Relation.TransGen.head'_iff.mp cycle with
    | intro c step => exact ⟨c, step.1⟩
  exact acyclic a (transGen_of_new_edges new cycle entered left)

end Foundation
