import Mathlib

namespace Foundation

universe u
variable {α : Type u} (beats : α → α → Bool)

def contest (kept challenger : α) : α := if beats challenger kept then challenger else kept

theorem foldl_contest_mem (kept : α) (challengers : List α) :
    challengers.foldl (contest beats) kept = kept ∨ challengers.foldl
      (contest beats) kept ∈ challengers := by
  induction challengers generalizing kept with
  | nil => exact .inl rfl
  | cons challenger rest ih =>
      rw [List.foldl_cons]
      rcases ih (contest beats kept challenger) with same | member
      · rw [same]
        by_cases wins : beats challenger kept <;> simp [contest, wins]
      · exact .inr (List.mem_cons_of_mem _ member)

variable {beats}

theorem foldl_contest_unbeaten {kept : α} {challengers : List α}
    (unbeaten : ∀ challenger ∈ challengers, beats challenger kept = false) :
    challengers.foldl (contest beats) kept = kept := by
  induction challengers with
  | nil => rfl
  | cons challenger rest ih =>
      have first : contest beats kept challenger = kept := by
        simp [contest, unbeaten challenger (by simp)]
      rw [List.foldl_cons, first]
      exact ih fun other member => unbeaten other (by simp [member])

/-- Under a strict order no challenger beats the one who is left, and whoever is left took the
title from the first champion, if from anyone. -/
theorem foldl_contest_maximal (irreflexive : ∀ a, beats a a = false)
    (transitive : ∀ a b c, beats b a = true → beats c b = true → beats c a = true) (kept : α)
    (challengers : List α) :
    (challengers.foldl (contest beats) kept = kept ∨
      beats (challengers.foldl (contest beats) kept) kept = true) ∧
    ∀ challenger ∈ challengers, beats challenger
      (challengers.foldl (contest beats) kept) = false := by
  induction challengers generalizing kept with
  | nil => exact ⟨.inl rfl, by simp⟩
  | cons challenger rest ih =>
      rw [List.foldl_cons]
      generalize champion : contest beats kept challenger = next
      obtain ⟨succession, maximal⟩ := ih next
      set last := rest.foldl (contest beats) next
      have asymmetric (a b : α) (first : beats b a = true) : beats a b = false := by
        by_contra second
        have := transitive a b a first (by simpa using second)
        simp [irreflexive] at this
      by_cases wins : beats challenger kept = true
      · have here : next = challenger := by simpa [contest, wins] using champion.symm
        subst here
        refine ⟨.inr ?_, ?_⟩
        · rcases succession with same | later
          · rwa [same]
          · exact transitive _ _ _ wins later
        · intro other member
          rcases List.mem_cons.mp member with rfl | member
          · rcases succession with same | later
            · rw [same, irreflexive]
            · exact asymmetric _ _ later
          · exact maximal other member
      · have here : next = kept := by simpa [contest, wins] using champion.symm
        subst here
        refine ⟨succession, ?_⟩
        intro other member
        rcases List.mem_cons.mp member with rfl | member
        · rcases succession with same | later
          · rw [same]
            simpa using wins
          · by_contra beaten
            exact wins (transitive _ _ _ later (by simpa using beaten))
        · exact maximal other member

theorem foldl_contest_unbeaten_by_all (irreflexive : ∀ a, beats a a = false)
    (transitive : ∀ a b c, beats b a = true → beats c b = true → beats c a = true) (kept : α)
    (challengers : List α) :
    ∀ contestant ∈ kept :: challengers, beats contestant
      (challengers.foldl (contest beats) kept) = false := by
  obtain ⟨succession, maximal⟩ := foldl_contest_maximal irreflexive transitive kept challengers
  intro contestant member
  rcases List.mem_cons.mp member with rfl | member
  · rcases succession with same | later
    · rw [same, irreflexive]
    · by_contra beaten
      have around := transitive _ _ _ later (by simpa using beaten)
      simp [irreflexive] at around
  · exact maximal contestant member

/-- Whoever is left beats no challenger exactly if the first to win is neither beaten by a
challenger nor beats one. -/
theorem foldl_contest_tied_iff (irreflexive : ∀ a, beats a a = false)
    (transitive : ∀ a b c, beats b a = true → beats c b = true → beats c a = true) (kept : α)
    (challengers : List α) :
    (∀ challenger ∈ challengers,
      beats (challengers.foldl (contest beats) kept) challenger = false) ↔
      ∀ challenger ∈ challengers,
        beats challenger ((challengers.find? (beats · kept)).getD kept) = false ∧
        beats ((challengers.find? (beats · kept)).getD kept) challenger = false := by
  have maximal := foldl_contest_maximal irreflexive transitive
  cases first : challengers.find? (beats · kept) with
  | none =>
      have unbeaten : ∀ challenger ∈ challengers, beats challenger kept = false := by
        simpa using List.find?_eq_none.mp first
      rw [foldl_contest_unbeaten unbeaten, Option.getD_none]
      exact forall₂_congr fun challenger member => (and_iff_right (unbeaten challenger member)).symm
  | some winner =>
      obtain ⟨wins, earlier, later, rfl, weak⟩ := List.find?_eq_some_iff_append.mp first
      have start : (earlier ++ winner :: later).foldl (contest beats) kept =
          later.foldl (contest beats) winner := by
        have before : earlier.foldl (contest beats) kept = kept :=
          foldl_contest_unbeaten (by simpa using weak)
        rw [List.foldl_append, before, List.foldl_cons]
        simp [contest, wins]
      rw [start, Option.getD_some]
      obtain ⟨succession, _⟩ := maximal winner later
      constructor
      · intro tied
        have same : later.foldl (contest beats) winner = winner := by
          rcases succession with same | beaten
          · exact same
          · rw [tied winner (by simp)] at beaten
            cases beaten
        have last := (maximal kept (earlier ++ winner :: later)).2
        rw [start, same] at last
        rw [same] at tied
        exact fun challenger member => ⟨last challenger member, tied challenger member⟩
      · intro tied
        rw [foldl_contest_unbeaten fun challenger member => (tied challenger (by simp [member])).1]
        exact fun challenger member => (tied challenger member).2

/-! ## The order of the challengers -/

variable (beats) in
def Draw (x y : α) : Prop := beats x y = false ∧ beats y x = false

instance (x y : α) : Decidable (Draw beats x y) := inferInstanceAs (Decidable (_ ∧ _))

theorem Draw.symm {x y : α} (drawn : Draw beats x y) : Draw beats y x := ⟨drawn.2, drawn.1⟩

variable (beats) in
/-- Whoever is left draws with the same contestants, in whatever order they meet. -/
def OrderFree (contestants : Set α) : Prop :=
  ∀ kept challengers kept' challengers', (∀ x ∈ kept :: challengers, x ∈ contestants) →
    (kept :: challengers).Perm (kept' :: challengers') → ∀ x ∈ kept :: challengers,
      (Draw beats (challengers.foldl (contest beats) kept) x ↔
        Draw beats (challengers'.foldl (contest beats) kept') x)

/-- The order in which the contestants meet matters exactly where draws are not transitive. -/
theorem orderFree_iff (irreflexive : ∀ a, beats a a = false)
    (transitive : ∀ a b c, beats b a = true → beats c b = true → beats c a = true)
    (contestants : Set α) :
    OrderFree beats contestants ↔
      ∀ x ∈ contestants, ∀ y ∈ contestants, ∀ z ∈ contestants, Draw beats x y → Draw beats y z →
      Draw beats x z := by
  constructor
  · intro free x memberX y memberY z memberZ first second
    by_contra apart
    -- met last, `y` draws with whoever won between the other two; met first, it is left itself
    have all : ∀ contestant ∈ [y, x, z], contestant ∈ contestants := by
      simp [memberX, memberY, memberZ]
    have stays : [x, z].foldl (contest beats) y = y :=
      foldl_contest_unbeaten (by simp [first.1, second.2])
    have decided : [z, y].foldl (contest beats) x = contest beats x z := by
      have winner : beats y (contest beats x z) = false := by
        unfold contest
        split
        · exact second.1
        · exact first.2
      rw [List.foldl_cons, foldl_contest_unbeaten (by simpa using winner)]
    have moved : [y, x, z].Perm [x, z, y] := @List.perm_append_comm _ [y] [x, z]
    have same := free y [x, z] x [z, y] all moved
    simp only [stays, decided] at same
    have left := (same x (by simp)).mp first.symm
    have right := (same z (by simp)).mp second
    unfold contest at left right
    split at left
    · exact apart left.symm
    · rename_i loses
      rw [if_neg loses] at right
      exact apart right
  · intro settled kept challengers kept' challengers' all moved x member
    have unbeaten := foldl_contest_unbeaten_by_all irreflexive transitive kept challengers
    have unbeaten' := foldl_contest_unbeaten_by_all irreflexive transitive kept' challengers'
    have last := List.mem_cons.mpr (foldl_contest_mem beats kept challengers)
    have last' := moved.mem_iff.mpr (List.mem_cons.mpr (foldl_contest_mem beats kept' challengers'))
    set left := challengers.foldl (contest beats) kept
    set left' := challengers'.foldl (contest beats) kept'
    have drawn : Draw beats left left' := ⟨unbeaten' left (moved.mem_iff.mp last),
      unbeaten left' last'⟩
    exact ⟨settled _ (all _ last') _ (all _ last) _ (all _ member) drawn.symm,
      settled _ (all _ last) _ (all _ last') _ (all _ member) drawn⟩

end Foundation
