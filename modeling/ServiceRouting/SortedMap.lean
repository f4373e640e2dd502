/-!
# Maps kept in the order of their keys

A map is the list of its entries, in strictly increasing order of the texts of their keys.  Hence
reading a map out needs no sorting, and two maps that answer every look-up alike are equal
(`SortedMap.ext_get?`).  Texts are compared code point by code point.
-/

set_option autoImplicit false

namespace ServiceRouting

/-- Values that are told apart by a text. -/
class TextKey (Key : Type) where
  text : Key → String
  text_injective : ∀ {first second : Key}, text first = text second → first = second

instance : TextKey String where
  text := id
  text_injective := id

/-! ## Entry lists -/

namespace Entries

variable {Key Value : Type} [TextKey Key]

def Increasing (entries : List (Key × Value)) : Prop :=
  entries.Pairwise fun first second => TextKey.text first.1 < TextKey.text second.1

def insert (key : Key) (value : Value) : List (Key × Value) → List (Key × Value)
  | [] => [(key, value)]
  | entry :: rest =>
    if TextKey.text key < TextKey.text entry.1 then (key, value) :: entry :: rest
    else if TextKey.text key = TextKey.text entry.1 then (key, value) :: rest
    else entry :: insert key value rest

def find? (text : String) : List (Key × Value) → Option Value
  | [] => none
  | entry :: rest =>
    if TextKey.text entry.1 = text then some entry.2 else find? text rest

theorem lt_of_not_lt_of_ne {first second : String} (notLess : ¬ first < second)
    (different : first ≠ second) : second < first := by
  rcases Decidable.em (second < first) with less | notGreater
  · exact less
  · exact absurd (String.le_antisymm (String.not_lt.mp notGreater) (String.not_lt.mp notLess))
      different

theorem mem_insert {key : Key} {value : Value} {entry : Key × Value}
    {entries : List (Key × Value)} (member : entry ∈ insert key value entries) :
    entry = (key, value) ∨ entry ∈ entries := by
  induction entries with
  | nil => simpa [insert] using member
  | cons head rest ih =>
    rw [insert] at member
    split at member
    · simpa using member
    · split at member
      · rcases List.mem_cons.mp member with same | inRest
        · exact .inl same
        · exact .inr (List.mem_cons_of_mem _ inRest)
      · rcases List.mem_cons.mp member with same | inRest
        · exact .inr (same ▸ List.mem_cons_self)
        · exact (ih inRest).imp id (List.mem_cons_of_mem _)

theorem increasing_insert (key : Key) (value : Value) {entries : List (Key × Value)}
    (increasing : Increasing entries) : Increasing (insert key value entries) := by
  induction entries with
  | nil => simp [insert, Increasing]
  | cons head rest ih =>
    obtain ⟨headFirst, restIncreasing⟩ := List.pairwise_cons.mp increasing
    rw [insert]
    split
    · rename_i less
      refine List.pairwise_cons.mpr ⟨?_, increasing⟩
      intro entry member
      rcases List.mem_cons.mp member with rfl | inRest
      · exact less
      · exact String.lt_trans less (headFirst entry inRest)
    · split
      · rename_i _ same
        refine List.pairwise_cons.mpr ⟨?_, restIncreasing⟩
        intro entry member
        simpa [same] using headFirst entry member
      · rename_i notLess different
        refine List.pairwise_cons.mpr ⟨?_, ih restIncreasing⟩
        intro entry member
        rcases mem_insert member with rfl | inRest
        · exact lt_of_not_lt_of_ne notLess different
        · exact headFirst entry inRest

theorem find?_insert (key : Key) (value : Value) (text : String)
    (entries : List (Key × Value)) :
    find? text (insert key value entries) =
      if TextKey.text key = text then some value else find? text entries := by
  induction entries with
  | nil => simp [insert, find?]
  | cons head rest ih =>
    rw [insert]
    split
    · simp [find?]
    · split
      · rename_i _ same
        by_cases asked : TextKey.text key = text <;> simp_all [find?]
      · rename_i _ different
        rw [find?, ih, find?]
        by_cases asked : TextKey.text key = text
        · have other : TextKey.text head.1 ≠ text := by
            intro same
            exact different (asked.trans same.symm)
          simp [asked, other]
        · simp [asked]

theorem find?_eq_none_of_lt {text : String} {entries : List (Key × Value)}
    (before : ∀ entry ∈ entries, text < TextKey.text entry.1) :
    find? text entries = none := by
  induction entries with
  | nil => rfl
  | cons head rest ih =>
    have headAfter := before head List.mem_cons_self
    have other : TextKey.text head.1 ≠ text := by
      intro same
      exact String.lt_irrefl _ (same ▸ headAfter)
    rw [find?, if_neg other]
    exact ih fun entry member => before entry (List.mem_cons_of_mem _ member)

theorem find?_eq_some_iff {text : String} {value : Value} {entries : List (Key × Value)}
    (increasing : Increasing entries) :
    find? text entries = some value ↔
      ∃ key, TextKey.text key = text ∧ (key, value) ∈ entries := by
  induction entries with
  | nil => simp [find?]
  | cons head rest ih =>
    obtain ⟨headFirst, restIncreasing⟩ := List.pairwise_cons.mp increasing
    rw [find?]
    split
    · rename_i same
      constructor
      · intro found
        refine ⟨head.1, same, ?_⟩
        cases found
        exact List.mem_cons_self
      · rintro ⟨key, keyText, member⟩
        rcases List.mem_cons.mp member with rfl | inRest
        · rfl
        · have less := headFirst _ inRest
          rw [same, ← keyText] at less
          exact absurd less (String.lt_irrefl _)
    · rename_i different
      rw [ih restIncreasing]
      constructor
      · rintro ⟨key, keyText, member⟩
        exact ⟨key, keyText, List.mem_cons_of_mem _ member⟩
      · rintro ⟨key, keyText, member⟩
        rcases List.mem_cons.mp member with rfl | inRest
        · exact absurd keyText different
        · exact ⟨key, keyText, inRest⟩

theorem eq_of_find?_eq {first second : List (Key × Value)} (firstIncreasing : Increasing first)
    (secondIncreasing : Increasing second)
    (alike : ∀ text, find? text first = find? text second) : first = second := by
  induction first generalizing second with
  | nil =>
    cases second with
    | nil => rfl
    | cons head rest => simpa [find?] using alike (TextKey.text head.1)
  | cons head rest ih =>
    cases second with
    | nil => simpa [find?] using alike (TextKey.text head.1)
    | cons other tail =>
      obtain ⟨headFirst, restIncreasing⟩ := List.pairwise_cons.mp firstIncreasing
      obtain ⟨otherFirst, tailIncreasing⟩ := List.pairwise_cons.mp secondIncreasing
      have texts : TextKey.text head.1 = TextKey.text other.1 := by
        apply Decidable.byContradiction
        intro different
        rcases Decidable.em (TextKey.text head.1 < TextKey.text other.1) with less | notLess
        · have absent := alike (TextKey.text head.1)
          rw [find?, if_pos rfl, find?, if_neg (Ne.symm different),
            find?_eq_none_of_lt fun entry member =>
              String.lt_trans less (otherFirst entry member)] at absent
          exact absurd absent (by simp)
        · have less := lt_of_not_lt_of_ne notLess different
          have absent := alike (TextKey.text other.1)
          rw [find?, if_neg different, find?, if_pos rfl,
            find?_eq_none_of_lt fun entry member =>
              String.lt_trans less (headFirst entry member)] at absent
          exact absurd absent (by simp)
      have values : head.2 = other.2 := by
        have same := alike (TextKey.text head.1)
        rw [find?, if_pos rfl, find?, if_pos texts.symm] at same
        exact Option.some.inj same
      have heads : head = other :=
        Prod.ext (TextKey.text_injective texts) values
      subst heads
      have rests : rest = tail := by
        apply ih restIncreasing tailIncreasing
        intro text
        by_cases asked : TextKey.text head.1 = text
        · rw [find?_eq_none_of_lt fun entry member => asked ▸ headFirst entry member,
            find?_eq_none_of_lt fun entry member => asked ▸ otherFirst entry member]
        · have same := alike text
          rwa [find?, if_neg asked, find?, if_neg asked] at same
      rw [rests]

end Entries

/-! ## Maps -/

structure SortedMap (Key Value : Type) [TextKey Key] where
  entries : List (Key × Value)
  increasing : Entries.Increasing entries
  deriving DecidableEq

namespace SortedMap

variable {Key Value : Type} [TextKey Key]

def empty : SortedMap Key Value := ⟨[], List.Pairwise.nil⟩

instance : EmptyCollection (SortedMap Key Value) := ⟨empty⟩

instance : Inhabited (SortedMap Key Value) := ⟨empty⟩

/-- Puts `value` under `key`, in place of an earlier value under that key. -/
def insert (map : SortedMap Key Value) (key : Key) (value : Value) : SortedMap Key Value :=
  ⟨Entries.insert key value map.entries, Entries.increasing_insert key value map.increasing⟩

def get? (map : SortedMap Key Value) (text : String) : Option Value :=
  Entries.find? text map.entries

def contains (map : SortedMap Key Value) (text : String) : Bool :=
  (map.get? text).isSome

def keys (map : SortedMap Key Value) : List Key :=
  map.entries.map Prod.fst

def values (map : SortedMap Key Value) : List Value :=
  map.entries.map Prod.snd

def size (map : SortedMap Key Value) : Nat :=
  map.entries.length

def isEmpty (map : SortedMap Key Value) : Bool :=
  map.entries.isEmpty

/-- The pairs are put in one after the other, so the last pair of a key decides. -/
def ofList (pairs : List (Key × Value)) : SortedMap Key Value :=
  pairs.foldl (fun map pair => map.insert pair.1 pair.2) empty

@[simp] theorem get?_empty (text : String) : (empty : SortedMap Key Value).get? text = none := rfl

theorem get?_insert (map : SortedMap Key Value) (key : Key) (value : Value) (text : String) :
    (map.insert key value).get? text =
      if TextKey.text key = text then some value else map.get? text :=
  Entries.find?_insert key value text map.entries

@[simp] theorem get?_insert_self (map : SortedMap Key Value) (key : Key) (value : Value) :
    (map.insert key value).get? (TextKey.text key) = some value := by
  simp [get?_insert]

theorem get?_insert_of_ne (map : SortedMap Key Value) {key : Key} (value : Value)
    {text : String} (different : TextKey.text key ≠ text) :
    (map.insert key value).get? text = map.get? text := by
  simp [get?_insert, different]

theorem get?_eq_some_iff {map : SortedMap Key Value} {text : String} {value : Value} :
    map.get? text = some value ↔
      ∃ key, TextKey.text key = text ∧ (key, value) ∈ map.entries :=
  Entries.find?_eq_some_iff map.increasing

/-- Maps with the same look-ups are the same map. -/
theorem ext_get? {first second : SortedMap Key Value}
    (alike : ∀ text, first.get? text = second.get? text) : first = second := by
  obtain ⟨entries, increasing⟩ := first
  obtain ⟨others, othersIncreasing⟩ := second
  have same : entries = others := Entries.eq_of_find?_eq increasing othersIncreasing alike
  subst same
  rfl

theorem keys_increasing (map : SortedMap Key Value) :
    map.keys.Pairwise fun first second => TextKey.text first < TextKey.text second :=
  List.pairwise_map.mpr map.increasing

end SortedMap

end ServiceRouting
