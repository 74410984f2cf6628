import Mathlib

namespace Foundation

universe u v w
variable {α : Type u} {β : Type v} {cmp : α → α → Ordering} [Std.TransCmp cmp] [Std.LawfulEqCmp cmp]
  [DecidableEq α] (map : Std.TreeMap α β cmp) (key other : α) (value : β)

theorem getElem?_insert :
    (map.insert key value)[other]? = if other = key then some value else map[other]? := by
  rw [Std.TreeMap.getElem?_insert]
  simp only [Std.LawfulEqCmp.compare_eq_iff_eq, @eq_comm _ key other]

theorem getElem?_erase : (map.erase key)[other]? = if other = key then none else map[other]? := by
  rw [Std.TreeMap.getElem?_erase]
  simp only [Std.LawfulEqCmp.compare_eq_iff_eq, @eq_comm _ key other]

theorem getElem?_insertIfNew : (map.insertIfNew key value)[other]? =
    if other = key then some (map[key]?.getD value) else map[other]? := by
  rw [Std.TreeMap.getElem?_insertIfNew]
  by_cases same : other = key
  · subst same
    cases present : map[other]? with
    | none =>
        have absent : ¬other ∈ map := by simp [Std.TreeMap.mem_iff_isSome_getElem?, present]
        simp [absent]
    | some found =>
        have member : other ∈ map := by simp [Std.TreeMap.mem_iff_isSome_getElem?, present]
        simp [member]
  · have apart : cmp key other ≠ .eq := by
      rw [Ne, Std.LawfulEqCmp.compare_eq_iff_eq]
      exact fun equal => same equal.symm
    simp [apart, same]

theorem getElem?_foldl_erase (keys : List α) :
    (keys.foldl (fun map key => map.erase key) map)[other]? = if other ∈ keys then none
      else map[other]? := by
  induction keys generalizing map with
  | nil => simp
  | cons key rest ih =>
      rw [List.foldl_cons, ih, getElem?_erase]
      by_cases here : other = key <;> by_cases later : other ∈ rest <;> simp [here, later]

omit [DecidableEq α] in
theorem nodup_keys : (map.toList.map Prod.fst).Nodup := by
  rw [List.nodup_iff_pairwise_ne, List.pairwise_map]
  exact Std.TreeMap.distinct_keys_toList.imp fun apart equal => apart (by simp [equal])

omit [DecidableEq α] in
theorem foldlM_eq_some {σ : Type v} {step : σ → α → σ} {step? : σ → α → Option σ} {inputs : List α}
    {start : σ}
    (succeeds : ∀ state, ∀ input ∈ inputs, step? state input = some (step state input)) :
    inputs.foldlM step? start = some (inputs.foldl step start) := by
  induction inputs generalizing start with
  | nil => rfl
  | cons input rest ih =>
      rw [List.foldlM_cons, succeeds start input List.mem_cons_self, List.foldl_cons]
      exact ih fun state other member => succeeds state other (List.mem_cons_of_mem _ member)

omit [DecidableEq α] in
theorem filter_filterMap_of_nodup {entries : List (α × β)} (distinct : (entries.map Prod.fst).Nodup)
    {γ : Type w} {make : α × β → Option γ} {about : γ → Bool} {key : α} {value : β} {made : γ}
    (member : (key, value) ∈ entries) (here : make (key, value) = some made)
    (only : ∀ entry ∈ entries, ∀ result, make entry = some result →
      (about result = true ↔ entry.1 = key)) :
    (entries.filterMap make).filter about = [made] := by
  induction entries with
  | nil => cases member
  | cons entry rest ih =>
      obtain ⟨first, distinct⟩ := List.nodup_cons.mp (List.map_cons ▸ distinct)
      rcases List.mem_cons.mp member with rfl | later
      · have none : (rest.filterMap make).filter about = [] := by
          rw [List.filter_eq_nil_iff]
          intro result listed about
          obtain ⟨entry, there, made⟩ := List.mem_filterMap.mp listed
          have same := (only entry (.tail _ there) result made).mp about
          exact first (List.mem_map.mpr ⟨entry, there, same⟩)
        have about := (only (key, value) List.mem_cons_self made here).mpr rfl
        rw [List.filterMap_cons, here]
        simp [about, none]
      · have other : entry.1 ≠ key := by
          rintro rfl
          exact first (List.mem_map.mpr ⟨_, later, rfl⟩)
        have rest := ih distinct later fun entry there => only entry (.tail _ there)
        rw [List.filterMap_cons]
        cases result : make entry with
        | none => exact rest
        | some result' =>
            have apart : about result' = false := by
              by_contra about
              exact other ((only entry List.mem_cons_self result' result).mp (by simpa using about))
            simp [apart, rest]

/-! ## Folds that treat each key on its own -/

section Local
variable {τ ν : Type*} {view : τ → ν} {step : τ → α × β → τ} {visit : ν → β → ν} {key : α}
  (here : ∀ state value, view (step state (key, value)) = visit (view state) value)
  (elsewhere : ∀ state other value, other ≠ key → view (step state (other, value)) = view state)

include elsewhere in
omit [DecidableEq α] in
theorem foldl_of_notMem {entries : List (α × β)} (absent : key ∉ entries.map Prod.fst) (start : τ) :
    view (entries.foldl step start) = view start := by
  induction entries generalizing start with
  | nil => rfl
  | cons entry rest ih =>
      obtain ⟨other, later⟩ := List.ne_and_not_mem_of_not_mem_cons (List.map_cons ▸ absent)
      rw [List.foldl_cons, ih later]
      exact elsewhere start entry.1 entry.2 other.symm

include here elsewhere in
omit [DecidableEq α] in
theorem foldl_of_mem {entries : List (α × β)} (distinct : (entries.map Prod.fst).Nodup) {value : β}
    (member : (key, value) ∈ entries) (start : τ) :
    view (entries.foldl step start) = visit (view start) value := by
  induction entries generalizing start with
  | nil => cases member
  | cons entry rest ih =>
      obtain ⟨first, distinct⟩ := List.nodup_cons.mp (List.map_cons ▸ distinct)
      rw [List.foldl_cons]
      rcases List.mem_cons.mp member with rfl | later
      · rw [foldl_of_notMem elsewhere first, here]
      · have other : entry.1 ≠ key := by
          rintro rfl
          exact first (List.mem_map.mpr ⟨_, later, rfl⟩)
        rw [ih distinct later, elsewhere start entry.1 entry.2 other]

include here elsewhere in
omit [DecidableEq α] in
/-- What a fold over a map makes of a key is what it makes of its value, if each step sees to its
own key only. -/
theorem foldl_toList_view (start : τ) :
    view (map.toList.foldl step start) = (map[key]?).elim (view start) (visit (view start)) := by
  cases found : map[key]? with
  | none =>
      refine foldl_of_notMem elsewhere (fun member => ?_) start
      obtain ⟨⟨other, value⟩, listed, rfl⟩ := List.mem_map.mp member
      rw [Std.TreeMap.mem_toList_iff_getElem?_eq_some, found] at listed
      cases listed
  | some value =>
      exact foldl_of_mem here elsewhere (nodup_keys map)
        (Std.TreeMap.mem_toList_iff_getElem?_eq_some.mpr found) start

end Local

end Foundation
