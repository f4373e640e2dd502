import ServiceRouting.CommandLine.Commands
import ServiceRouting.Proofs.MapViews
import ServiceRouting.Proofs.Text.ByteOrder
import ServiceRouting.Proofs.Text.Trimming

/-!
# The options of the create command

A pair is accepted if there is more than white space before its first equals sign
(`CommandLine.parsePair?_eq_some_iff_pairText`).  The command hands the router options in which the last
pair of every trimmed key counts, and what it does beyond that is told by the answer of the router to
these options (`option_arguments_collected`).
-/

set_option autoImplicit false

namespace ServiceRouting

namespace CommandLine

/-! ## Texts of pairs -/

/-- A text cut at its first equals sign, with more than white space before it. -/
structure PairText (text before value : String) : Prop where
  whole : text = before ++ "=" ++ value
  first : '=' ∉ before.toList
  named : ¬ Layout.Blank before.toList

/-- The key is what stands before the sign, trimmed, and the value is all behind the sign. -/
theorem parsePair?_eq_some_iff_pairText {text key value : String} :
    parsePair? text = some (key, value) ↔
      ∃ before, PairText text before value ∧ Layout.TrimsTo before.toList key.toList := by
  rw [parsePair?_eq_some_iff]
  constructor
  · rintro ⟨before, split, absent, named, rfl⟩
    have whole : text = String.ofList before ++ "=" ++ value := by
      rw [← String.toList_inj, split]
      simp
    refine ⟨String.ofList before, ⟨whole, by simpa using absent, ?_⟩, ?_⟩
    · rwa [String.toList_ofList, ← Layout.trim_eq_nil_iff]
    · rw [String.toList_ofList, String.toList_ofList]
      exact Layout.trimsTo_trim before
  · rintro ⟨before, ⟨rfl, first, named⟩, trimmed⟩
    have key_eq : Layout.trim before.toList = key.toList := trimmed.trim_eq
    refine ⟨before.toList, by simp, first, ?_, ?_⟩
    · rwa [ne_eq, Layout.trim_eq_nil_iff]
    · rw [key_eq, String.ofList_toList]

theorem PairText.parsed {text before value : String} (pair : PairText text before value) :
    ∃ key, parsePair? text = some (key, value) ∧ Layout.TrimsTo before.toList key.toList := by
  have trimmed : Layout.TrimsTo before.toList
      (String.ofList (Layout.trim before.toList)).toList := by
    rw [String.toList_ofList]
    exact Layout.trimsTo_trim before.toList
  exact ⟨_, parsePair?_eq_some_iff_pairText.mpr ⟨before, pair, trimmed⟩, trimmed⟩

theorem parsePair?_join {key : String} (filled : key ≠ "") (first : '=' ∉ key.toList)
    (bare : Layout.Bare key.toList) (value : String) :
    parsePair? (key ++ "=" ++ value) = some (key, value) := by
  have trimmed : Layout.trim key.toList = key.toList := Layout.trim_of_bare bare
  have named : ¬ Layout.Blank key.toList := by
    rw [← Layout.trim_eq_nil_iff, trimmed]
    simpa using filled
  exact parsePair?_eq_some_iff_pairText.mpr
    ⟨key, ⟨rfl, first, named⟩, Layout.trim_eq_iff.mp trimmed⟩

/-! ## The options that texts come to -/

def optionsOf (texts : List String) : Options :=
  .ofList (texts.filterMap parsePair?)

variable {texts : List String} {key value : String}

theorem get?_optionsOf (texts : List String) (key : String) :
    (optionsOf texts).get? key =
      (texts.filterMap fun text => (parsePair? text).bind fun pair =>
        if pair.1 = key then some pair.2 else none).getLast? := by
  have collected := SortedMap.get?_ofList (texts.filterMap parsePair?) key
  rwa [List.filterMap_filterMap] at collected

theorem get?_optionsOf_eq_some_iff :
    (optionsOf texts).get? key = some value ↔
      ∃ before text after, texts = before ++ text :: after ∧
        parsePair? text = some (key, value) ∧
        ∀ later ∈ after, ∀ other, parsePair? later ≠ some (key, other) := by
  have said (text value : String) :
      ((parsePair? text).bind fun pair => if pair.1 = key then some pair.2 else none) =
        some value ↔ parsePair? text = some (key, value) := by
    cases parsePair? text with
    | none => simp
    | some pair =>
      obtain ⟨same, given⟩ := pair
      simp
  rw [get?_optionsOf, LastOccurrence.getLast?_filterMap_eq_some_iff]
  simp only [said, Option.eq_none_iff_forall_ne_some, ne_eq]

theorem mem_keys_optionsOf :
    key ∈ (optionsOf texts).keys ↔
      ∃ text ∈ texts, ∃ value, parsePair? text = some (key, value) := by
  have given : key ∈ (optionsOf texts).keys ↔ key ∈ (texts.filterMap parsePair?).map Prod.fst :=
    SortedMap.mem_keys_ofList
  simp only [given, List.mem_map, List.mem_filterMap]
  constructor
  · rintro ⟨⟨_, value⟩, ⟨text, member, parsed⟩, rfl⟩
    exact ⟨text, member, value, parsed⟩
  · rintro ⟨text, member, value, parsed⟩
    exact ⟨(key, value), ⟨text, member, parsed⟩, rfl⟩

/-- Of two texts with one trimmed key the first might as well not be there. -/
theorem optionsOf_of_overruled {first second one other : String}
    (replaced : parsePair? first = some (key, one)) (given : parsePair? second = some (key, other))
    (before between after : List String) :
    optionsOf (before ++ first :: between ++ second :: after) =
      optionsOf (before ++ between ++ second :: after) := by
  refine congrArg Options.mk (SortedMap.ext_get? ?_)
  intro asked
  have here := get?_optionsOf (before ++ first :: between ++ second :: after) asked
  have there := get?_optionsOf (before ++ between ++ second :: after) asked
  refine here.trans (Eq.trans ?_ there.symm)
  refine LastOccurrence.getLast?_filterMap_of_overruled ?_ before between after
  simp [replaced, given]

/-- The last text of every trimmed key counts, and the keys stand in the order of their bytes. -/
structure LastTexts (options : Options) (texts : List String) : Prop where
  value : ∀ key value, options.get? key = some value ↔
    ∃ before text after, texts = before ++ text :: after ∧ parsePair? text = some (key, value) ∧
      ∀ later ∈ after, ∀ other, parsePair? later ≠ some (key, other)
  keys : ∀ key, key ∈ options.keys ↔ ∃ text ∈ texts, ∃ value, parsePair? text = some (key, value)
  increasing : options.keys.Pairwise fun first second =>
    ByteOrder.bytes first < ByteOrder.bytes second

theorem lastTexts_optionsOf (texts : List String) : LastTexts (optionsOf texts) texts where
  value _ _ := get?_optionsOf_eq_some_iff
  keys _ := mem_keys_optionsOf
  increasing := SortedMap.keys_bytes_increasing _

/-! ## The command -/

theorem filterMap_of_read {pairs : List (String × String)}
    (read : texts.map parsePair? = pairs.map some) : texts.filterMap parsePair? = pairs :=
  calc
    texts.filterMap parsePair? = (texts.map parsePair?).filterMap id := by
      rw [List.filterMap_map, Function.id_comp]
    _ = (pairs.map some).filterMap id := by rw [read]
    _ = pairs := by rw [List.filterMap_map, Function.id_comp, List.filterMap_some]

section Command

variable [Matcher] {m : Type → Type} [Monad m] (files : Files m) {routing : Routing} (json : Bool)
variable {style : CallStyle} {service : String} {pairs : List (String × String)}
variable {table created : LoadTable}

theorem run_create_of_error {failure : RoutingError}
    (answered : routing.create style service (.ofList pairs) table = (.error failure, created)) :
    run files routing json table (.create service pairs style) = pure (.failed failure created) := by
  rw [run, create, answered]

theorem run_create_of_ok {handle : Handle}
    (answered : routing.create style service (.ofList pairs) table = (.ok handle, created)) :
    run files routing json table (.create service pairs style) =
      handle.check files >>= fun
        | .error error => pure (.failed (.refused error) created)
        | .ok () => pure (.printed (openedLine style handle) created) := by
  rewrite [run, create, answered]
  rfl

end Command

end CommandLine

open CommandLine in
/-- The texts of pairs that are accepted are those with more than white space before their first equals
sign, and a key without white space at its ends is read back with its value, whatever the value is.  If
all are accepted, the command asks the router to open the service with options in which the last text of
every trimmed key counts, in the order of the bytes of the keys: a failure of the router is the failure of
the command, and a handle is checked before anything is printed.  An earlier text of the same trimmed key
might as well not be there. -/
theorem option_arguments_collected :
    (∀ text, (∃ pair, parsePair? text = some pair) ↔ ∃ before value, PairText text before value) ∧
    (∀ text before value, PairText text before value →
      ∃ key, parsePair? text = some (key, value) ∧ Layout.TrimsTo before.toList key.toList) ∧
    (∀ key value, key ≠ "" → '=' ∉ key.toList → Layout.Bare key.toList →
      parsePair? (key ++ "=" ++ value) = some (key, value)) ∧
    (∀ texts pairs, texts.map parsePair? = pairs.map some →
      ∃ options, LastTexts options texts ∧
        ∀ [Matcher] {m : Type → Type} [Monad m] (files : Files m) (routing : Routing) (json : Bool)
          (table : LoadTable) (style : CallStyle) (service : String),
          (∀ failure created,
            routing.create style service options table = (.error failure, created) →
            run files routing json table (.create service pairs style) =
              pure (.failed failure created)) ∧
          ∀ handle created,
            routing.create style service options table = (.ok handle, created) →
            run files routing json table (.create service pairs style) =
              handle.check files >>= fun
                | .error error => pure (.failed (.refused error) created)
                | .ok () => pure (.printed (openedLine style handle) created)) ∧
    ∀ first second one other given kept bare, PairText first one given →
      PairText second other kept → Layout.TrimsTo one.toList bare →
      Layout.TrimsTo other.toList bare → ∀ before between after,
      optionsOf (before ++ first :: between ++ second :: after) =
        optionsOf (before ++ between ++ second :: after) := by
  refine ⟨?_, ?_, ?_, ?_, ?_⟩
  · intro text
    constructor
    · rintro ⟨⟨key, value⟩, parsed⟩
      obtain ⟨before, pair, _⟩ := parsePair?_eq_some_iff_pairText.mp parsed
      exact ⟨before, value, pair⟩
    · rintro ⟨before, value, pair⟩
      obtain ⟨key, parsed, _⟩ := pair.parsed
      exact ⟨(key, value), parsed⟩
  · intro text before value pair
    exact pair.parsed
  · intro key value filled first bare
    exact parsePair?_join filled first bare value
  · intro texts pairs read
    refine ⟨optionsOf texts, lastTexts_optionsOf texts, ?_⟩
    intro matcher m _ files routing json table style service
    rw [optionsOf, filterMap_of_read read]
    exact ⟨fun _ _ => run_create_of_error files json, fun _ _ => run_create_of_ok files json⟩
  · intro first second one other given kept bare earlier later trimmed same
    have replaced : parsePair? first = some (String.ofList bare, given) :=
      parsePair?_eq_some_iff_pairText.mpr ⟨one, earlier, by rwa [String.toList_ofList]⟩
    have counts : parsePair? second = some (String.ofList bare, kept) :=
      parsePair?_eq_some_iff_pairText.mpr ⟨other, later, by rwa [String.toList_ofList]⟩
    exact optionsOf_of_overruled replaced counts

namespace CommandLine

/-- A root given twice, the first time behind a wide blank, with an empty value between. -/
theorem options_of_mixed_texts :
    ∃ options : Options, options.get? "root" = some "/srv=2" ∧ options.get? "x" = some "" ∧
      ∀ [Matcher] (files : Files Id) (routing : Routing) (table : LoadTable) (failure : RoutingError)
        (created : LoadTable),
        routing.create .awaited "fs" options table = (.error failure, created) →
        run files routing false table
            (.create "fs" [("root", "/tmp"), ("x", ""), ("root", "/srv=2")] .awaited) =
          pure (.failed failure created) := by
  obtain ⟨_, _, _, collected, _⟩ := option_arguments_collected
  obtain ⟨options, last, carried⟩ := collected ["\u3000root=/tmp", "x=", "root =/srv=2"]
    [("root", "/tmp"), ("x", ""), ("root", "/srv=2")] (by rfl)
  refine ⟨options, ?_, ?_, ?_⟩
  · exact (last.value _ _).mpr ⟨["\u3000root=/tmp", "x="], "root =/srv=2", [], rfl, by rfl, by simp⟩
  · refine (last.value _ _).mpr ⟨["\u3000root=/tmp"], "x=", ["root =/srv=2"], rfl, by rfl, ?_⟩
    intro later member other
    obtain rfl := List.mem_singleton.mp member
    intro parsed
    have root : parsePair? "root =/srv=2" = some ("root", "/srv=2") := by rfl
    simp [root] at parsed
  · intro matcher files routing table failure created
    exact (carried files routing false table .awaited "fs").1 failure created

end CommandLine

end ServiceRouting
