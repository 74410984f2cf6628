import Mathlib

namespace Foundation

universe u v
variable {α : Type u} {β : Type v} {before rest list : List α} {here other found : α} {p : α → Bool}

theorem mem_middle : other ∈ before ++ here :: rest ↔ other ∈ before ++ rest ∨ other = here := by
  rw [List.mem_append, List.mem_cons, List.mem_append, or_assoc]
  exact or_congr_right or_comm

theorem ne_of_nodup_middle {key : α → β} (distinct : ((before ++ here :: rest).map key).Nodup) :
    ∀ other ∈ before ++ rest, key other ≠ key here := by
  rw [List.map_append, List.map_cons, List.nodup_middle, List.nodup_cons, ← List.map_append]
    at distinct
  intro other member same
  exact distinct.1 (same ▸ List.mem_map_of_mem member)

theorem find?_append_of_some (first : list.find? p = some found) (next : α) :
    (list ++ [next]).find? p = some found := by
  rw [List.find?_append, first, Option.some_or]

theorem exists_split_of_findIdx? {i : Nat} (first : list.findIdx? p = some i) :
    ∃ before here rest, list = before ++ here :: rest ∧ before.length = i ∧ p here = true ∧
      ∀ other ∈ before, p other = false := by
  obtain ⟨inside, passes, earlier⟩ := List.findIdx?_eq_some_iff_getElem.mp first
  refine ⟨list.take i, list[i], list.drop (i + 1), ?_, List.length_take_of_le inside.le, passes, ?_⟩
  · rw [List.getElem_cons_drop, List.take_append_drop]
  · intro other member
    obtain ⟨j, less, rfl⟩ := List.mem_take_iff_getElem.mp member
    simpa using earlier j (less.trans_le (Nat.min_le_left _ _))

/-- What is taken up to the first failure is all that passes, where nothing that passes follows a
failure. -/
theorem map_takeWhile_eq_map_filter_iff (p : α → Bool) (f : α → β) (list : List α) :
    (list.takeWhile p).map f = (list.filter p).map f ↔
      list.Pairwise fun earlier later => p later = true → p earlier = true := by
  induction list with
  | nil => simp
  | cons first rest ih =>
      rw [List.pairwise_cons]
      cases passes : p first with
      | true =>
          rw [List.takeWhile_cons_of_pos passes, List.filter_cons_of_pos passes, List.map_cons,
            List.map_cons, List.cons_inj_right, ih]
          exact (and_iff_right fun _ _ _ => rfl).symm
      | false =>
          rw [List.takeWhile_cons_of_neg (by simp [passes]),
            List.filter_cons_of_neg (by simp [passes]), List.map_nil, eq_comm, List.map_eq_nil_iff,
            List.filter_eq_nil_iff]
          constructor
          · intro none
            refine ⟨fun later member passed => absurd passed (none later member), ?_⟩
            exact List.pairwise_of_forall_mem_list fun _ _ later member passed =>
              absurd passed (none later member)
          · rintro ⟨blocked, _⟩ later member passed
            exact Bool.false_ne_true (blocked later member passed)

/-- A list that takes at most one element from each key of a table takes no more than there are keys
to take from. -/
theorem length_filterMap_le_card {κ α β : Type*} [DecidableEq κ] {pick : κ × α → Option β}
    {table : List (κ × α)} {keys : Finset κ} (distinct : (table.map Prod.fst).Nodup)
    (within : ∀ pair ∈ table, ∀ picked, pick pair = some picked → pair.1 ∈ keys) :
    (table.filterMap pick).length ≤ keys.card := by
  induction table generalizing keys with
  | nil => simp
  | cons pair rest ih =>
      obtain ⟨absent, others⟩ := List.nodup_cons.mp distinct
      cases chosen : pick pair with
      | none =>
          rw [List.filterMap_cons_none chosen]
          exact ih others fun other member => within other (.tail _ member)
      | some picked =>
          rw [List.filterMap_cons_some chosen, List.length_cons]
          have here : pair.1 ∈ keys := within pair List.mem_cons_self picked chosen
          have fewer := @ih (keys.erase pair.1) others fun other member taken there =>
            Finset.mem_erase.mpr ⟨fun same => absent (same ▸ List.mem_map_of_mem member),
              within other (.tail _ member) taken there⟩
          rw [Finset.card_erase_of_mem here] at fewer
          have positive : 0 < keys.card := Finset.card_pos.mpr ⟨_, here⟩
          omega

end Foundation
