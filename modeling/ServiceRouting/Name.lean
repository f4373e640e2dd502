import ServiceRouting.SortedMap

/-!
# Names of services and of providers

Both kinds of name are opaque texts: case matters, nothing is trimmed or folded, and only the empty
text is refused.
-/

set_option autoImplicit false

namespace ServiceRouting

/-! ## Services -/

structure ServiceName where
  text : String
  nonempty : text ≠ ""
  deriving DecidableEq

namespace ServiceName

instance : TextKey ServiceName where
  text := ServiceName.text
  text_injective := by
    rintro ⟨first, _⟩ ⟨second, _⟩ same
    cases same
    rfl

instance : ToString ServiceName := ⟨ServiceName.text⟩

def ofText? (text : String) : Option ServiceName :=
  if empty : text = "" then none else some ⟨text, empty⟩

theorem ofText?_eq_some_iff {text : String} {name : ServiceName} :
    ofText? text = some name ↔ name.text = text := by
  unfold ofText?
  split
  · rename_i empty
    simp only [reduceCtorEq, false_iff]
    intro same
    exact name.nonempty (same.trans empty)
  · constructor
    · intro found
      cases found
      rfl
    · rintro rfl
      rfl

theorem ofText?_eq_none_iff {text : String} : ofText? text = none ↔ text = "" := by
  unfold ofText?
  split <;> simp_all

end ServiceName

/-! ## Providers -/

structure ProviderId where
  text : String
  nonempty : text ≠ ""
  deriving DecidableEq

namespace ProviderId

instance : TextKey ProviderId where
  text := ProviderId.text
  text_injective := by
    rintro ⟨first, _⟩ ⟨second, _⟩ same
    cases same
    rfl

instance : ToString ProviderId := ⟨ProviderId.text⟩

def ofText? (text : String) : Option ProviderId :=
  if empty : text = "" then none else some ⟨text, empty⟩

theorem ofText?_eq_some_iff {text : String} {id : ProviderId} :
    ofText? text = some id ↔ id.text = text := by
  unfold ofText?
  split
  · rename_i empty
    simp only [reduceCtorEq, false_iff]
    intro same
    exact id.nonempty (same.trans empty)
  · constructor
    · intro found
      cases found
      rfl
    · rintro rfl
      rfl

theorem ofText?_eq_none_iff {text : String} : ofText? text = none ↔ text = "" := by
  unfold ofText?
  split <;> simp_all

end ProviderId

/-! ## Order -/

/-- The names in the order of their texts, equal ones kept side by side. -/
def TextKey.sort {Key : Type} [TextKey Key] (names : List Key) : List Key :=
  names.mergeSort fun first second => decide (TextKey.text first ≤ TextKey.text second)

end ServiceRouting
