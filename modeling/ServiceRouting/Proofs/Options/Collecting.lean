import ServiceRouting.Options
import ServiceRouting.Proofs.MapViews
import ServiceRouting.Proofs.Text.ByteOrder

/-!
# Options made of pairs

Options may be collected from pairs at once, grown by one pair after the other, or taken over from a map
that was made of the pairs: an ordered one, or a hashed one, which gives out its entries in any order.
All these ways (`Options.Makes`) lead to the same options, which hold the last pair of every key
(`Options.Collects`), and so do pairs in another order if those of one key stay in theirs
(`collections_agree`).
-/

set_option autoImplicit false

namespace ServiceRouting

/-! ## Maps of other kinds -/

namespace SortedMap

variable {Value : Type} (pairs : List (String × Value))

/-- The entries of a search tree are in order already. -/
def ofTree (tree : Std.TreeMap String Value) : SortedMap String Value where
  entries := tree.toList
  increasing := tree.ordered_keys_toList.imp fun less => compareOfLessAndEq_eq_lt.mp less

theorem get?_ofTree (tree : Std.TreeMap String Value) (key : String) :
    (ofTree tree).get? key = tree[key]? := by
  refine Option.ext ?_
  intro value
  have listed : (key, value) ∈ (ofTree tree).entries ↔ (ofTree tree).get? key = some value :=
    mem_entries_iff
  rw [← listed]
  exact Std.TreeMap.mem_toList_iff_getElem?_eq_some

theorem ofTree_ofList : ofTree (.ofList pairs) = ofList pairs := by
  refine ext_get? ?_
  intro key
  have alike : (Std.TreeMap.ofList pairs).Equiv
      (pairs.foldl (fun tree pair => tree.insert pair.1 pair.2) ∅) :=
    Std.TreeMap.ofList_equiv_foldl
  rw [get?_ofTree, alike.getElem?_eq]
  refine read_foldl_eq_get? (fun tree pair => tree.insert pair.1 pair.2)
    (fun tree : Std.TreeMap String Value => tree[key]?) Std.TreeMap.getElem?_emptyc ?_ pairs
  intro tree pair
  simp [Std.TreeMap.getElem?_insert, TextKey.text]

theorem getElem?_hashed (key : String) :
    (Std.HashMap.ofList pairs)[key]? = (ofList pairs).get? key := by
  have alike : (Std.HashMap.ofList pairs).Equiv
      (pairs.foldl (fun table pair => table.insert pair.1 pair.2) ∅) :=
    Std.HashMap.ofList_equiv_foldl
  rw [alike.getElem?_eq]
  refine read_foldl_eq_get? (fun table pair => table.insert pair.1 pair.2)
    (fun table : Std.HashMap String Value => table[key]?) Std.HashMap.getElem?_empty ?_ pairs
  intro table pair
  simp [Std.HashMap.getElem?_insert, TextKey.text]

variable {pairs}

/-- A walk over a hashed map meets every key once, so its order does not matter. -/
theorem ofList_walk {walk : List (String × Value)}
    (whole : walk.Perm (Std.HashMap.ofList pairs).toList) : ofList walk = ofList pairs := by
  have once : (walk.map Prod.fst).Nodup := by
    have apart : (Std.HashMap.ofList pairs).toList.Pairwise fun first second =>
        first.1 ≠ second.1 := by
      refine Std.HashMap.distinct_keys_toList.imp ?_
      intro first second unlike
      exact beq_eq_false_iff_ne.mp unlike
    exact (whole.map Prod.fst).nodup_iff.mpr (List.pairwise_map.mpr apart)
  refine ext_get? ?_
  intro key
  refine Option.ext ?_
  intro value
  rw [← lastGiven_iff, LastGiven.iff_mem_of_nodup once, whole.mem_iff,
    Std.HashMap.mem_toList_iff_getElem?_eq_some, getElem?_hashed]

end SortedMap

/-! ## Ways to put options together -/

namespace Options

/-- Adds a pair in place. -/
def put (key value : String) : StateM Options Unit :=
  modify fun options => options.insert key value

/-- The options may have been made of the pairs. -/
inductive Makes (pairs : List (String × String)) : Options → Prop where
  | collected : Makes pairs (.ofList pairs)
  /-- Each addition makes new options. -/
  | added : Makes pairs (pairs.foldl (fun options pair => options.insert pair.1 pair.2) .empty)
  | filled : Makes pairs ((pairs.forM fun pair => put pair.1 pair.2).run .empty).2
  | ordered : Makes pairs ⟨.ofTree (.ofList pairs)⟩
  /-- A hashed map may be walked in any order. -/
  | hashed {walk : List (String × String)} :
      walk.Perm (Std.HashMap.ofList pairs).toList → Makes pairs (.ofList walk)

/-- What is read from options made of pairs. -/
structure Collects (options : Options) (pairs : List (String × String)) : Prop where
  value : ∀ key value, options.get? key = some value ↔ LastGiven pairs key value
  entry : ∀ key value, (key, value) ∈ options.toList ↔ LastGiven pairs key value
  listed : options.toList.map Prod.fst = options.keys
  keys : options.keys.Perm (pairs.map Prod.fst).eraseDups
  increasing : options.keys.Pairwise fun first second =>
    ByteOrder.bytes first < ByteOrder.bytes second
  size : options.size = (pairs.map Prod.fst).eraseDups.length

variable {pairs other : List (String × String)} {options : Options}

theorem pairs_foldl_insert (start : Options) (pairs : List (String × String)) :
    (pairs.foldl (fun options pair => options.insert pair.1 pair.2) start).pairs =
      pairs.foldl (fun map pair => map.insert pair.1 pair.2) start.pairs := by
  induction pairs generalizing start with
  | nil => rfl
  | cons pair rest ih =>
    rw [List.foldl_cons, List.foldl_cons, ih]
    rfl

theorem run_forM_put (start : Options) (pairs : List (String × String)) :
    ((pairs.forM fun pair => put pair.1 pair.2).run start).2 =
      pairs.foldl (fun options pair => options.insert pair.1 pair.2) start := by
  induction pairs generalizing start with
  | nil => rfl
  | cons pair rest ih =>
    rw [List.foldl_cons, ← ih]
    rfl

theorem Makes.eq_ofList (made : Makes pairs options) : options = ofList pairs := by
  have grown : pairs.foldl (fun options pair => options.insert pair.1 pair.2) empty =
      ofList pairs :=
    congrArg Options.mk (pairs_foldl_insert empty pairs)
  cases made with
  | collected => rfl
  | added => exact grown
  | filled => rw [run_forM_put, grown]
  | ordered => rw [SortedMap.ofTree_ofList, ofList]
  | hashed whole => rw [ofList, SortedMap.ofList_walk whole, ofList]

theorem ofList_congr
    (alike : ∀ key, pairs.filter (·.1 = key) = other.filter (·.1 = key)) :
    ofList pairs = ofList other := by
  refine congrArg Options.mk (SortedMap.ext_get? ?_)
  intro key
  refine Option.ext ?_
  intro value
  rw [← SortedMap.lastGiven_iff, ← SortedMap.lastGiven_iff]
  constructor
  · exact LastGiven.of_filter (alike key)
  · exact LastGiven.of_filter (alike key).symm

theorem collects_ofList (pairs : List (String × String)) : (ofList pairs).Collects pairs where
  value _ _ := SortedMap.lastGiven_iff.symm
  entry key value := by
    rw [SortedMap.lastGiven_iff]
    exact SortedMap.mem_entries_iff
  listed := rfl
  keys := SortedMap.keys_ofList_perm pairs
  increasing := SortedMap.keys_bytes_increasing _
  size := SortedMap.size_ofList pairs

end Options

/-- Whichever way options are made of pairs, and in whatever order pairs of different keys stand, they
are the same options: under every key the value of its last pair, every key once, in the order of
bytes. -/
theorem collections_agree {pairs other : List (String × String)}
    (alike : ∀ key, pairs.filter (·.1 = key) = other.filter (·.1 = key)) {first second : Options}
    (one : Options.Makes pairs first) (another : Options.Makes other second) :
    first = second ∧ first.Collects pairs := by
  have same : Options.ofList pairs = Options.ofList other := Options.ofList_congr alike
  obtain rfl := one.eq_ofList
  obtain rfl := another.eq_ofList
  exact ⟨same, Options.collects_ofList pairs⟩

/-- A size that is given twice. -/
def Options.resized : List (String × String) :=
  [("size", "1"), ("länge", "2"), ("size", "3")]

/-- The other key has moved to the end. -/
def Options.resizedFirst : List (String × String) :=
  [("size", "1"), ("size", "3"), ("länge", "2")]

theorem collections_agree_on_sizes :
    let walk := (Std.HashMap.ofList Options.resized).toList.reverse
    Options.ofList walk = ⟨.ofTree (.ofList Options.resizedFirst)⟩ ∧
      (Options.ofList walk).get? "size" = some "3" ∧ (Options.ofList walk).size = 2 := by
  intro walk
  have alike (key : String) :
      Options.resized.filter (·.1 = key) = Options.resizedFirst.filter (·.1 = key) := by
    by_cases long : "länge" = key
    · subst long
      rfl
    · simp [Options.resized, Options.resizedFirst, List.filter_cons, long]
  have whole : walk.Perm (Std.HashMap.ofList Options.resized).toList := List.reverse_perm _
  obtain ⟨same, holds⟩ := collections_agree alike (.hashed whole) .ordered
  refine ⟨same, ?_, holds.size⟩
  exact (holds.value "size" "3").mpr ⟨Options.resized.take 2, [], rfl, by simp⟩

end ServiceRouting
