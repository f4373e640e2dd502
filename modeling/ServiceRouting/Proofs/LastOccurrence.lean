import Mathlib.Data.List.Induction

/-!
# The last item that says something

A fold in which later items overrule earlier ones ends with what the last item said that said anything
(`read_foldl`).  Such an item is told by the split of the list at its place
(`getLast?_filterMap_eq_some_iff`), and items that say nothing may stand anywhere
(`filterMap_of_moved`).  Of pairs with one name the last gives its value (`LastGiven`).
-/

set_option autoImplicit false

namespace ServiceRouting

namespace LastOccurrence

variable {State Item Given : Type}

theorem getLast?_filterMap_eq_some_iff {read : Item → Option Given} {items : List Item}
    {given : Given} :
    (items.filterMap read).getLast? = some given ↔
      ∃ before item after, items = before ++ item :: after ∧ read item = some given ∧
        ∀ later ∈ after, read later = none := by
  rw [List.getLast?_filterMap, List.findSome?_eq_some_iff]
  constructor
  · rintro ⟨after, item, before, reversed, said, silent⟩
    have forward := congrArg List.reverse reversed
    simp only [List.reverse_reverse, List.reverse_append, List.reverse_cons, List.append_assoc,
      List.singleton_append] at forward
    refine ⟨before.reverse, item, after.reverse, forward, said, ?_⟩
    intro later member
    exact silent later (List.mem_reverse.mp member)
  · rintro ⟨before, item, after, rfl, said, silent⟩
    refine ⟨after.reverse, item, before.reverse, by simp, said, ?_⟩
    intro later member
    exact silent later (List.mem_reverse.mp member)

theorem getLast?_filterMap_eq_none_iff {read : Item → Option Given} {items : List Item} :
    (items.filterMap read).getLast? = none ↔ ∀ item ∈ items, read item = none := by
  rw [List.getLast?_eq_none_iff, List.filterMap_eq_nil_iff]

/-- What every item either overrules or leaves as it is, is what the last item said of it. -/
theorem read_foldl (apply : State → Item → State) (read : State → Option Given)
    (write : Item → Option Given)
    (sets : ∀ state item, read (apply state item) = (write item).or (read state))
    (start : State) (items : List Item) :
    read (items.foldl apply start) = (items.filterMap write).getLast?.or (read start) := by
  induction items using List.reverseRecOn with
  | nil => rfl
  | append_singleton before item ih =>
    rw [List.foldl_append, List.foldl_cons, List.foldl_nil, sets, ih, List.filterMap_append]
    cases said : write item with
    | none => simp [said]
    | some given => simp [said]

/-- An item goes unheard if a later one says something whenever it does. -/
theorem getLast?_filterMap_of_overruled {read : Item → Option Given} {item later : Item}
    (overruled : read later = none → read item = none) (before between after : List Item) :
    ((before ++ item :: between ++ later :: after).filterMap read).getLast? =
      ((before ++ between ++ later :: after).filterMap read).getLast? := by
  cases said : read later with
  | none => simp [said, overruled said]
  | some given =>
    have heard (items : List Item) : ((items ++ later :: after).filterMap read).getLast? =
        (given :: after.filterMap read).getLast? := by
      rw [List.filterMap_append, List.filterMap_cons_some said, List.getLast?_append,
        List.getLast?_cons, Option.some_or]
    rw [heard, heard]

/-- An item changes places with items beside which it says nothing, or which say nothing beside it. -/
theorem filterMap_of_moved {read : Item → Option Given} {item : Item} {passed : List Item}
    (apart : read item = none ∨ ∀ other ∈ passed, read other = none) (before after : List Item) :
    (before ++ item :: passed ++ after).filterMap read =
      (before ++ passed ++ item :: after).filterMap read := by
  simp only [List.filterMap_append, List.append_assoc]
  congr 1
  rcases apart with silent | silent
  · simp [silent]
  · have nothing : passed.filterMap read = [] := List.filterMap_eq_nil_iff.mpr silent
    rw [List.filterMap_cons, List.filterMap_cons, nothing]
    cases read item <;> simp

end LastOccurrence

/-! ## The last pair of a name -/

section LastGiven

variable {Value : Type} {pairs other : List (String × Value)} {name : String} {value : Value}

/-- No later pair has the name. -/
def LastGiven (pairs : List (String × Value)) (name : String) (value : Value) : Prop :=
  ∃ before after, pairs = before ++ (name, value) :: after ∧ ∀ later ∈ after, later.1 ≠ name

namespace LastGiven

theorem iff_getLast? :
    LastGiven pairs name value ↔
      (pairs.filterMap fun pair => if pair.1 = name then some pair.2 else none).getLast? =
        some value := by
  rw [LastOccurrence.getLast?_filterMap_eq_some_iff, LastGiven]
  constructor
  · rintro ⟨before, after, split, absent⟩
    exact ⟨before, (name, value), after, split, by simp, by simpa using absent⟩
  · rintro ⟨before, ⟨same, given⟩, after, split, here, absent⟩
    have last : same = name ∧ given = value := by simpa using here
    obtain ⟨rfl, rfl⟩ := last
    exact ⟨before, after, split, by simpa using absent⟩

theorem iff_mem_of_nodup (once : (pairs.map Prod.fst).Nodup) :
    LastGiven pairs name value ↔ (name, value) ∈ pairs := by
  constructor
  · rintro ⟨before, after, rfl, _⟩
    simp
  · intro member
    obtain ⟨before, after, rfl⟩ := List.append_of_mem member
    refine ⟨before, after, rfl, ?_⟩
    rintro later inAfter rfl
    have apart : later.1 ∉ after.map Prod.fst := by
      rw [List.map_append, List.map_cons, List.nodup_append] at once
      exact (List.nodup_cons.mp once.2.1).1
    exact apart (List.mem_map_of_mem inAfter)

/-- Pairs of different names may change places. -/
theorem of_filter (alike : pairs.filter (·.1 = name) = other.filter (·.1 = name))
    (given : LastGiven pairs name value) : LastGiven other name value := by
  have read (items : List (String × Value)) :
      (items.filterMap fun pair => if pair.1 = name then some pair.2 else none) =
        (items.filter (·.1 = name)).map Prod.snd := by
    rw [← List.filterMap_eq_map, List.filterMap_filter]
    simp
  rw [iff_getLast?, read] at given ⊢
  rwa [← alike]

end LastGiven

end LastGiven

end ServiceRouting
