import Mathlib

namespace Foundation

universe u v
variable {κ : Type u} {υ : Type v} [DecidableEq κ] [DecidableEq υ] {entries : List (κ × υ)}
  {key : κ} {value : υ}

/-- A list of keys with values in which each key and each value occurs once. -/
structure OneToOne (entries : List (κ × υ)) : Prop where
  keys : (entries.map Prod.fst).Nodup
  values : (entries.map Prod.snd).Nodup

def keyOf (entries : List (κ × υ)) (value : υ) : Option κ :=
  (entries.find? (·.2 = value)).map Prod.fst

def withoutKey (key : Option κ) (entries : List (κ × υ)) : List (κ × υ) :=
  entries.filter fun entry => some entry.1 ≠ key

omit [DecidableEq κ] in
theorem keyOf_isSome : (keyOf entries value).isSome ↔ value ∈ entries.map Prod.snd := by
  simp [keyOf]

omit [DecidableEq κ] in
theorem keyOf_eq_none : keyOf entries value = none ↔ value ∉ entries.map Prod.snd := by
  rw [← keyOf_isSome, Bool.not_eq_true, Option.isSome_eq_false_iff, Option.isNone_iff_eq_none]

omit [DecidableEq κ] in
theorem mem_of_keyOf (found : keyOf entries value = some key) : (key, value) ∈ entries := by
  obtain ⟨entry, chosen, rfl⟩ := Option.map_eq_some_iff.mp found
  have here : entry.2 = value := by simpa using List.find?_some chosen
  rw [← here]
  exact List.mem_of_find?_eq_some chosen

omit [DecidableEq υ] in
theorem mem_keys_withoutKey {removed : Option κ} :
    key ∈ (withoutKey removed entries).map Prod.fst ↔ key ∈ entries.map Prod.fst ∧
    some key ≠ removed := by
  simp only [withoutKey, List.mem_map, List.mem_filter, decide_eq_true_eq]
  constructor
  · rintro ⟨entry, ⟨member, apart⟩, rfl⟩
    exact ⟨⟨entry, member, rfl⟩, apart⟩
  · rintro ⟨⟨entry, member, rfl⟩, apart⟩
    exact ⟨entry, ⟨member, apart⟩, rfl⟩

namespace OneToOne

omit [DecidableEq κ] [DecidableEq υ] in
theorem nil : OneToOne ([] : List (κ × υ)) := ⟨List.nodup_nil, List.nodup_nil⟩

omit [DecidableEq κ] [DecidableEq υ] in
theorem eq_of_key (oneToOne : OneToOne entries) {first second : κ × υ} (here : first ∈ entries)
    (there : second ∈ entries) (same : first.1 = second.1) : first = second :=
  List.inj_on_of_nodup_map oneToOne.keys here there same

omit [DecidableEq κ] [DecidableEq υ] in
theorem eq_of_value (oneToOne : OneToOne entries) {first second : κ × υ} (here : first ∈ entries)
    (there : second ∈ entries) (same : first.2 = second.2) : first = second :=
  List.inj_on_of_nodup_map oneToOne.values here there same

omit [DecidableEq κ] [DecidableEq υ] in
theorem push (oneToOne : OneToOne entries) (newKey : key ∉ entries.map Prod.fst)
    (newValue : value ∉ entries.map Prod.snd) :
    OneToOne (entries ++ [(key, value)]) := by
  constructor
  · simpa using oneToOne.keys.concat newKey
  · simpa using oneToOne.values.concat newValue

omit [DecidableEq υ] in
theorem withoutKey (oneToOne : OneToOne entries) (key : Option κ) :
    OneToOne (withoutKey key entries) :=
  ⟨oneToOne.keys.sublist (List.filter_sublist.map _),
    oneToOne.values.sublist (List.filter_sublist.map _)⟩

theorem mem_withoutKey (oneToOne : OneToOne entries) {entry : κ × υ} :
    entry ∈ Foundation.withoutKey (keyOf entries value) entries ↔ entry ∈ entries ∧
    entry.2 ≠ value := by
  rw [Foundation.withoutKey, List.mem_filter, decide_eq_true_eq]
  refine and_congr_right fun member => not_congr ⟨fun same => ?_, fun here => ?_⟩
  · have found := mem_of_keyOf same.symm
    rw [oneToOne.eq_of_key member found rfl]
  · have listed : (keyOf entries value).isSome :=
      keyOf_isSome.mpr (here ▸ List.mem_map_of_mem member)
    obtain ⟨key, found⟩ := Option.isSome_iff_exists.mp listed
    rw [found, oneToOne.eq_of_value member (mem_of_keyOf found) here]

theorem mem_map_withoutKey (oneToOne : OneToOne entries) {other : υ} :
    other ∈ (Foundation.withoutKey (keyOf entries value) entries).map Prod.snd ↔
      other ∈ entries.map Prod.snd ∧ other ≠ value := by
  simp only [List.mem_map, oneToOne.mem_withoutKey]
  constructor
  · rintro ⟨entry, ⟨member, apart⟩, rfl⟩
    exact ⟨⟨entry, member, rfl⟩, apart⟩
  · rintro ⟨⟨entry, member, rfl⟩, apart⟩
    exact ⟨entry, ⟨member, apart⟩, rfl⟩

end OneToOne

/-! ## Subscriptions -/

def Subscribes (able present : κ → Prop) (list : List κ) : Prop :=
  ∀ key, key ∈ list ↔ able key ∧ present key

namespace Subscribes
variable {able present later : κ → Prop} {list : List κ}

omit [DecidableEq κ] in
theorem congr (subscribes : Subscribes able present list) (same : ∀ key, later key ↔ present key) :
    Subscribes able later list := by
  intro key
  rw [subscribes key, same key]

omit [DecidableEq κ] in
theorem enter (subscribes : Subscribes able present list) (new : κ) [Decidable (able new)]
    (entered : ∀ key, later key ↔ present key ∨ key = new) :
    Subscribes able later (if able new then list ++ [new] else list) := by
  intro key
  rw [entered]
  by_cases possible : able new
  · rw [if_pos possible, List.mem_append, subscribes key, List.mem_singleton]
    constructor
    · rintro (⟨can, here⟩ | rfl)
      · exact ⟨can, .inl here⟩
      · exact ⟨possible, .inr rfl⟩
    · rintro ⟨can, here | rfl⟩
      · exact .inl ⟨can, here⟩
      · exact .inr rfl
  · rw [if_neg possible, subscribes key]
    constructor
    · rintro ⟨can, here⟩
      exact ⟨can, .inl here⟩
    · rintro ⟨can, here | rfl⟩
      · exact ⟨can, here⟩
      · exact absurd can possible

theorem leave (subscribes : Subscribes able present list) (gone : κ)
    (left : ∀ key, later key ↔ present key ∧ key ≠ gone) :
    Subscribes able later (list.filter (· ≠ gone)) := by
  intro key
  rw [left, List.mem_filter, subscribes key, decide_eq_true_eq, and_assoc]

end Subscribes

end Foundation
