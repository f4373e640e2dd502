import Mathlib.Data.List.Induction
import Mathlib.Data.List.Nodup

/-!
# Lists cut down to first occurrences

The list `eraseDups` keeps the first occurrence of every element.  Putting one more element at the
end either changes nothing or adds the element at the end.  Where no two elements share a key, the first
with a key is the only one (`find?_eq_some_iff`).
-/

set_option autoImplicit false

namespace ServiceRouting

namespace FirstOccurrences

theorem find?_eq_some_iff {Item Key : Type} [DecidableEq Key] {key : Item → Key} {items : List Item}
    (apart : ∀ one ∈ items, ∀ other ∈ items, key one = key other → one = other) {asked : Key}
    {item : Item} :
    (items.find? fun other => key other == asked) = some item ↔ item ∈ items ∧ key item = asked := by
  constructor
  · intro found
    have passed := List.find?_some found
    exact ⟨List.mem_of_find?_eq_some found, beq_iff_eq.mp passed⟩
  · rintro ⟨member, rfl⟩
    cases found : items.find? fun other => key other == key item with
    | none =>
      have unlike := List.find?_eq_none.mp found item member
      exact absurd (beq_self_eq_true (key item)) unlike
    | some other =>
      have passed := List.find?_some found
      rw [apart other (List.mem_of_find?_eq_some found) item member (beq_iff_eq.mp passed)]

variable {Item : Type} [DecidableEq Item]

theorem append_cons_of_mem {items : List Item} {item : Item} (old : item ∈ items)
    (rest : List Item) : (items ++ item :: rest).eraseDups = (items ++ rest).eraseDups := by
  simp [List.eraseDups_append, List.removeAll, old]

theorem concat_of_mem {items : List Item} {item : Item} (old : item ∈ items) :
    (items ++ [item]).eraseDups = items.eraseDups := by
  rw [append_cons_of_mem old, List.append_nil]

theorem concat_of_notMem {items : List Item} {item : Item} (new : item ∉ items) :
    (items ++ [item]).eraseDups = items.eraseDups ++ [item] := by
  simp [List.eraseDups_append, List.eraseDups_cons, List.removeAll, new]

theorem nodup (items : List Item) : items.eraseDups.Nodup := by
  induction items using List.reverseRecOn with
  | nil => exact List.nodup_nil
  | append_singleton before item ih =>
    by_cases old : item ∈ before
    · rw [concat_of_mem old]
      exact ih
    · rw [concat_of_notMem old]
      refine List.nodup_append.mpr ⟨ih, List.nodup_singleton item, ?_⟩
      rintro other member _ single rfl
      exact old (List.mem_singleton.mp single ▸ List.mem_eraseDups.mp member)

theorem of_nodup {items : List Item} (distinct : items.Nodup) : items.eraseDups = items := by
  induction items using List.reverseRecOn with
  | nil => rfl
  | append_singleton before item ih =>
    obtain ⟨earlier, _, apart⟩ := List.nodup_append.mp distinct
    have new : item ∉ before := fun member => apart item member item (by simp) rfl
    rw [concat_of_notMem new, ih earlier]

/-- What is cut down already may be grown further. -/
theorem concat_eraseDups (items : List Item) (item : Item) :
    (items.eraseDups ++ [item]).eraseDups = (items ++ [item]).eraseDups := by
  by_cases old : item ∈ items
  · rw [concat_of_mem (List.mem_eraseDups.mpr old), concat_of_mem old, of_nodup (nodup items)]
  · have new : item ∉ items.eraseDups := fun member => old (List.mem_eraseDups.mp member)
    rw [concat_of_notMem new, concat_of_notMem old, of_nodup (nodup items)]

theorem map_of_injective {Image : Type} [DecidableEq Image] {image : Item → Image}
    (injective : Function.Injective image) (items : List Item) :
    items.eraseDups.map image = (items.map image).eraseDups := by
  induction items using List.reverseRecOn with
  | nil => rfl
  | append_singleton before item ih =>
    rw [List.map_append, List.map_singleton]
    by_cases old : item ∈ before
    · rw [concat_of_mem old, concat_of_mem (List.mem_map_of_mem old), ih]
    · have new : image item ∉ before.map image := by
        rwa [List.mem_map_of_injective injective]
      rw [concat_of_notMem old, concat_of_notMem new, List.map_append, List.map_singleton, ih]

end FirstOccurrences

end ServiceRouting
