import Mathlib.Data.List.Nodup
import ServiceRouting.Proofs.FirstOccurrences
import ServiceRouting.Proofs.LastOccurrence
import ServiceRouting.SortedMap

/-!
# Sorted maps read out as lists

What the lists of entries, keys and values of a sorted map contain, said through look-ups, maps made of
lists, in which the last pair of a key counts (`SortedMap.lastGiven_iff`), and maps made of some of the
entries of another (`SortedMap.select`), which is what a walk over all entries leaves that passes some of
them over (`SortedMap.foldl_insert_if`).
-/

set_option autoImplicit false

namespace ServiceRouting

namespace SortedMap

variable {Key Value : Type} [TextKey Key] {map : SortedMap Key Value}

theorem mem_entries_iff {key : Key} {value : Value} :
    (key, value) ∈ map.entries ↔ map.get? (TextKey.text key) = some value := by
  rw [get?_eq_some_iff]
  constructor
  · intro member
    exact ⟨key, rfl, member⟩
  · rintro ⟨other, same, member⟩
    rwa [TextKey.text_injective same] at member

theorem mem_keys_iff {key : Key} :
    key ∈ map.keys ↔ ∃ value, map.get? (TextKey.text key) = some value := by
  simp only [keys, List.mem_map]
  constructor
  · rintro ⟨⟨same, value⟩, member, rfl⟩
    exact ⟨value, mem_entries_iff.mp member⟩
  · rintro ⟨value, found⟩
    exact ⟨(key, value), mem_entries_iff.mpr found, rfl⟩

theorem mem_values_iff {value : Value} :
    value ∈ map.values ↔ ∃ key : Key, map.get? (TextKey.text key) = some value := by
  simp only [values, List.mem_map]
  constructor
  · rintro ⟨⟨key, found⟩, member, rfl⟩
    exact ⟨key, mem_entries_iff.mp member⟩
  · rintro ⟨key, found⟩
    exact ⟨(key, value), mem_entries_iff.mpr found, rfl⟩

theorem keys_nodup (map : SortedMap Key Value) : map.keys.Nodup := by
  refine map.keys_increasing.imp ?_
  rintro first _ less rfl
  exact String.lt_irrefl _ less

theorem length_keys (map : SortedMap Key Value) : map.keys.length = map.size := by
  rw [keys, List.length_map, size]

theorem keys_perm_eraseDups [DecidableEq Key] {listed : List Key}
    (same : ∀ key, key ∈ map.keys ↔ key ∈ listed) : map.keys.Perm listed.eraseDups := by
  refine (List.perm_ext_iff_of_nodup (keys_nodup map) (FirstOccurrences.nodup listed)).mpr ?_
  intro key
  rw [same, List.mem_eraseDups]

/-- Of the entries, those of one key are the look-up of that key. -/
theorem filterMap_entries {Given : Type} (map : SortedMap Key Value) (text : String)
    (read : Value → Option Given) :
    map.entries.filterMap (fun entry =>
      if TextKey.text entry.1 = text then read entry.2 else none) =
      ((map.get? text).bind read).toList := by
  obtain ⟨entries, increasing⟩ := map
  rw [get?]
  induction entries with
  | nil => rfl
  | cons head rest ih =>
    obtain ⟨headFirst, restIncreasing⟩ := List.pairwise_cons.mp increasing
    rw [List.filterMap_cons, Entries.find?]
    by_cases here : TextKey.text head.1 = text
    · -- The keys that follow are larger, so this entry is the only one.
      have absent : Entries.find? text rest = none :=
        Entries.find?_eq_none_of_lt fun entry member => here ▸ headFirst entry member
      rw [if_pos here, if_pos here, ih restIncreasing, absent]
      cases given : read head.2 <;> simp [given]
    · rw [if_neg here, if_neg here]
      exact ih restIncreasing

/-! ## Maps made of lists -/

section Grown

variable {State : Type} (add : State → Key × Value → State) (read : State → Option Value)
  {start : State} {text : String}

/-- What is grown pair by pair and read like a map tells of the last pair of a key. -/
theorem read_foldl_eq_getLast? (nothing : read start = none)
    (added : ∀ state pair,
      read (add state pair) = if TextKey.text pair.1 = text then some pair.2 else read state)
    (pairs : List (Key × Value)) :
    read (pairs.foldl add start) =
      (pairs.filterMap fun pair =>
        if TextKey.text pair.1 = text then some pair.2 else none).getLast? := by
  have folded := LastOccurrence.read_foldl add read
    (fun pair => if TextKey.text pair.1 = text then some pair.2 else none) ?_ start pairs
  · rw [folded, nothing, Option.or_none]
  · intro state pair
    rw [added]
    split <;> rfl

theorem get?_ofList (pairs : List (Key × Value)) (text : String) :
    (ofList pairs).get? text =
      (pairs.filterMap fun pair =>
        if TextKey.text pair.1 = text then some pair.2 else none).getLast? :=
  read_foldl_eq_getLast? (fun map pair => map.insert pair.1 pair.2) (fun map => map.get? text)
    (get?_empty text) (fun map pair => get?_insert map pair.1 pair.2 text) pairs

/-- So it tells what a map made of the pairs tells. -/
theorem read_foldl_eq_get? (nothing : read start = none)
    (added : ∀ state pair,
      read (add state pair) = if TextKey.text pair.1 = text then some pair.2 else read state)
    (pairs : List (Key × Value)) : read (pairs.foldl add start) = (ofList pairs).get? text := by
  rw [get?_ofList]
  exact read_foldl_eq_getLast? add read nothing added pairs

end Grown

theorem mem_keys_ofList {pairs : List (Key × Value)} {key : Key} :
    key ∈ (ofList pairs).keys ↔ key ∈ pairs.map Prod.fst := by
  rw [mem_keys_iff, ← Option.isSome_iff_exists, ← Option.ne_none_iff_isSome, get?_ofList, ne_eq,
    LastOccurrence.getLast?_filterMap_eq_none_iff]
  simp only [ite_eq_right_iff, reduceCtorEq, imp_false, not_forall, not_not, List.mem_map]
  constructor
  · rintro ⟨pair, member, same⟩
    exact ⟨pair, member, TextKey.text_injective same⟩
  · rintro ⟨pair, member, rfl⟩
    exact ⟨pair, member, rfl⟩

theorem keys_ofList_perm [DecidableEq Key] (pairs : List (Key × Value)) :
    (ofList pairs).keys.Perm (pairs.map Prod.fst).eraseDups :=
  keys_perm_eraseDups fun _ => mem_keys_ofList

theorem size_ofList [DecidableEq Key] (pairs : List (Key × Value)) :
    (ofList pairs).size = (pairs.map Prod.fst).eraseDups.length := by
  rw [← length_keys, (keys_ofList_perm pairs).length_eq]

theorem lastGiven_iff {pairs : List (String × Value)} {name : String} {value : Value} :
    LastGiven pairs name value ↔ (ofList pairs).get? name = some value := by
  rw [LastGiven.iff_getLast?, get?_ofList]
  rfl

/-- Putting one value under many keys. -/
theorem get?_foldl_insert (map : SortedMap Key Value) (keys : List Key) (value : Value)
    (text : String) :
    (keys.foldl (fun grown key => grown.insert key value) map).get? text =
      if text ∈ keys.map TextKey.text then some value else map.get? text := by
  induction keys generalizing map with
  | nil => simp
  | cons key rest ih =>
    rw [List.foldl_cons, ih, get?_insert]
    by_cases later : text ∈ rest.map TextKey.text
    · simp [later]
    · by_cases same : TextKey.text key = text
      · simp [same]
      · simp [later, same, Ne.symm same]

/-- The keys do not depend on what is put under them. -/
theorem keys_insert_congr (map : SortedMap Key Value) (key : Key) (first second : Value) :
    (map.insert key first).keys = (map.insert key second).keys := by
  obtain ⟨entries, increasing⟩ := map
  dsimp only [keys, insert]
  clear increasing
  induction entries with
  | nil => rfl
  | cons head rest ih =>
    rw [Entries.insert, Entries.insert]
    split
    · rfl
    · split
      · rfl
      · simp only [List.map_cons, ih]

/-! ## Some of the entries -/

section Select

variable {Given : Type} (keep : Key → Bool) (read : Value → Given)

/-- The entries of some keys, each with what is read from its value. -/
def select (map : SortedMap Key Value) : SortedMap Key Given where
  entries := (map.entries.filter fun entry => keep entry.1).map fun entry => (entry.1, read entry.2)
  increasing := List.pairwise_map.mpr (map.increasing.filter _)

theorem keys_select (map : SortedMap Key Value) :
    (map.select keep read).keys = map.keys.filter keep := by
  simp [select, keys, List.filter_map, Function.comp_def]

theorem get?_select (map : SortedMap Key Value) (key : Key) :
    (map.select keep read).get? (TextKey.text key) =
      if keep key then (map.get? (TextKey.text key)).map read else none := by
  refine Option.ext ?_
  intro given
  rw [← mem_entries_iff]
  by_cases kept : keep key
  · simp [select, kept, ← mem_entries_iff, Option.map_eq_some_iff]
  · simp [select, kept]

/-- A key above all others goes to the end. -/
theorem entries_insert_last {map : SortedMap Key Value} {key : Key} {value : Value}
    (above : ∀ entry ∈ map.entries, TextKey.text entry.1 < TextKey.text key) :
    (map.insert key value).entries = map.entries ++ [(key, value)] := by
  obtain ⟨entries, increasing⟩ := map
  dsimp only [insert] at above ⊢
  clear increasing
  induction entries with
  | nil => rfl
  | cons head rest ih =>
    have headBelow := above head List.mem_cons_self
    have notLess : ¬ TextKey.text key < TextKey.text head.1 := String.lt_asymm headBelow
    have different : TextKey.text key ≠ TextKey.text head.1 := by
      intro same
      exact String.lt_irrefl _ (same ▸ headBelow)
    rw [Entries.insert, if_neg notLess, if_neg different, List.cons_append]
    rw [ih fun entry member => above entry (List.mem_cons_of_mem _ member)]

theorem entries_foldl_insert_if (entries : List (Key × Value)) (grown : SortedMap Key Given)
    (increasing : Entries.Increasing entries)
    (below : ∀ old ∈ grown.entries, ∀ new ∈ entries, TextKey.text old.1 < TextKey.text new.1) :
    (entries.foldl (fun grown entry =>
      if keep entry.1 then grown.insert entry.1 (read entry.2) else grown) grown).entries =
      grown.entries ++
        (entries.filter fun entry => keep entry.1).map fun entry => (entry.1, read entry.2) := by
  induction entries generalizing grown with
  | nil => simp
  | cons head rest ih =>
    obtain ⟨headFirst, restIncreasing⟩ := List.pairwise_cons.mp increasing
    rw [List.foldl_cons]
    by_cases kept : keep head.1
    · -- The head comes after all that is there and before all that is to come.
      have last : (grown.insert head.1 (read head.2)).entries =
          grown.entries ++ [(head.1, read head.2)] :=
        entries_insert_last fun old inGrown => below old inGrown head List.mem_cons_self
      rw [if_pos kept, ih _ restIncreasing, last, List.filter_cons, if_pos kept, List.map_cons,
        List.append_assoc, List.singleton_append]
      intro old inGrown new inRest
      rw [last] at inGrown
      rcases List.mem_append.mp inGrown with earlier | here
      · exact below old earlier new (List.mem_cons_of_mem _ inRest)
      · obtain rfl := List.mem_singleton.mp here
        exact headFirst new inRest
    · rw [if_neg kept, ih _ restIncreasing, List.filter_cons, if_neg kept]
      intro old inGrown new inRest
      exact below old inGrown new (List.mem_cons_of_mem _ inRest)

theorem eq_of_entries {first second : SortedMap Key Value}
    (same : first.entries = second.entries) : first = second := by
  cases first
  cases second
  cases same
  rfl

/-- A walk over a map that takes in some of its entries. -/
theorem foldl_insert_if (map : SortedMap Key Value) :
    map.entries.foldl (fun grown entry =>
      if keep entry.1 then grown.insert entry.1 (read entry.2) else grown) empty =
      map.select keep read := by
  refine eq_of_entries ?_
  exact entries_foldl_insert_if keep read map.entries empty map.increasing (by simp [empty])

end Select

end SortedMap

end ServiceRouting
