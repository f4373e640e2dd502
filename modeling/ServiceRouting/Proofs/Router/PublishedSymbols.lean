import ServiceRouting.Bundled
import ServiceRouting.Proofs.FirstOccurrences
import ServiceRouting.Proofs.Router.Requests
import ServiceRouting.Proofs.Text.ByteOrder

/-!
# Symbols are found as they were published

Of the values published under one name the last is the only one to be found, and under its own type only
(`SymbolTable.get?_ofList_eq_some_iff`).  The names are listed once each, in the order of their bytes.
The namespace of a provider tells the same, and because no two kinds of failure share a name, it resolves
the name of every published kind to that kind, and no other name (`namespace_tells_published`).
-/

set_option autoImplicit false

namespace ServiceRouting

/-! ## Names of kinds -/

namespace ErrorKind

theorem named?_all (kind : ErrorKind) : named? all kind.name = some kind := by
  cases kind <;> rfl

theorem name_injective : Function.Injective name := by
  intro first second same
  have read := named?_all first
  rw [same, named?_all] at read
  exact (Option.some.inj read).symm

/-- Whatever the order of the list and its repeats, the first kind with the name is the only one. -/
theorem named?_eq_some_iff {kinds : List ErrorKind} {text : String} {kind : ErrorKind} :
    named? kinds text = some kind ↔ kind ∈ kinds ∧ kind.name = text := by
  refine FirstOccurrences.find?_eq_some_iff ?_
  intro one _ other _ same
  exact name_injective same

end ErrorKind

/-! ## Tables made of calls -/

/-- The value was the last to be published under the name. -/
def LastPublished (calls : List (String × SymbolValue)) (name : String) (value : SymbolValue) :
    Prop :=
  ∃ before after, calls = before ++ (name, value) :: after ∧ ∀ later ∈ after, later.1 ≠ name

theorem lastPublished_iff {calls : List (String × SymbolValue)} {name : String}
    {value : SymbolValue} :
    LastPublished calls name value ↔ (SortedMap.ofList calls).get? name = some value :=
  SortedMap.lastGiven_iff

theorem LastPublished.unique {calls : List (String × SymbolValue)} {name : String}
    {first second : SymbolValue} (one : LastPublished calls name first)
    (other : LastPublished calls name second) : first = second :=
  Option.some.inj ((lastPublished_iff.mp one).symm.trans (lastPublished_iff.mp other))

namespace SymbolTable

theorem get?_eq_some_iff {table : SymbolTable} {type : SymbolType} {name : String}
    {value : SymbolValue} :
    table.get? type name = some value ↔
      value.type = type ∧ (table.symbol? name).map PublishedSymbol.value = some value := by
  rw [get?]
  cases table.symbol? name with
  | none => simp
  | some symbol =>
    simp only [Option.map_some, Option.ite_none_right_eq_some, Option.some.injEq]
    constructor
    · rintro ⟨typed, rfl⟩
      exact ⟨typed, rfl⟩
    · rintro ⟨typed, rfl⟩
      exact ⟨typed, rfl⟩

variable (calls : List (String × SymbolValue))

/-- But for the serial numbers, a table holds what a map made of the same pairs holds. -/
theorem map_value_symbol?_ofList (name : String) :
    ((ofList calls).symbol? name).map PublishedSymbol.value =
      (SortedMap.ofList calls).get? name := by
  refine SortedMap.read_foldl_eq_get? (fun table call => publish table call.1 call.2)
    (fun table => (table.symbol? name).map PublishedSymbol.value) rfl ?_ calls
  intro table call
  dsimp only [symbol?, publish]
  rw [SortedMap.get?_insert]
  split <;> rfl

theorem get?_ofList_eq_some_iff {type : SymbolType} {name : String} {value : SymbolValue} :
    (ofList calls).get? type name = some value ↔
      value.type = type ∧ LastPublished calls name value := by
  rw [get?_eq_some_iff, map_value_symbol?_ofList, lastPublished_iff]

theorem mem_names_ofList {name : String} :
    name ∈ (ofList calls).names ↔ name ∈ calls.map Prod.fst := by
  rw [← SortedMap.mem_keys_ofList, SortedMap.mem_keys_iff, names, SortedMap.mem_keys_iff]
  have held := map_value_symbol?_ofList calls name
  rw [symbol?] at held
  simp only [TextKey.text, id_eq, ← held, Option.map_eq_some_iff]
  constructor
  · rintro ⟨symbol, found⟩
    exact ⟨_, symbol, found, rfl⟩
  · rintro ⟨_, symbol, found, _⟩
    exact ⟨symbol, found⟩

theorem names_ofList_perm : (ofList calls).names.Perm (calls.map Prod.fst).eraseDups :=
  SortedMap.keys_perm_eraseDups fun _ => mem_names_ofList calls

theorem size_ofList : (ofList calls).size = (calls.map Prod.fst).eraseDups.length := by
  rw [size, ← SortedMap.length_keys]
  exact (names_ofList_perm calls).length_eq

end SymbolTable

/-! ## What a namespace tells -/

/-- What a namespace shows of the calls by which the symbols of its provider were published. -/
structure Namespace.Tells (space : Namespace) (calls : List (String × SymbolValue)) : Prop where
  table : space.exports.table = .ofList calls
  typed : ∀ type name value, space.get? type name = some value ↔
    value.type = type ∧ LastPublished calls name value
  names : space.names.Perm (calls.map Prod.fst).eraseDups
  increasing : space.names.Pairwise fun first second =>
    ByteOrder.bytes first < ByteOrder.bytes second
  size : space.exports.table.size = (calls.map Prod.fst).eraseDups.length
  kind : ∀ name kind, space.exception? name = some kind ↔
    ∃ kinds, LastPublished calls SharedSymbols.exceptions (.errorKinds kinds) ∧
      kind ∈ kinds ∧ kind.name = name
  resolved : ∀ kinds, LastPublished calls SharedSymbols.exceptions (.errorKinds kinds) →
    ∀ kind ∈ kinds, space.exception? kind.name = some kind
  unresolved : ∀ kinds, LastPublished calls SharedSymbols.exceptions (.errorKinds kinds) →
    ∀ name, (∀ kind ∈ kinds, kind.name ≠ name) → space.exception? name = none

namespace Namespace

variable {space : Namespace} {calls : List (String × SymbolValue)}

theorem exception?_eq_some_iff {name : String} {kind : ErrorKind} :
    space.exception? name = some kind ↔
      ∃ kinds, space.get? .errorKinds SharedSymbols.exceptions = some (.errorKinds kinds) ∧
        kind ∈ kinds ∧ kind.name = name := by
  rw [exception?]
  split
  · rename_i kinds found
    rw [ErrorKind.named?_eq_some_iff, found]
    simp
  · rename_i other
    simp only [reduceCtorEq, false_iff]
    rintro ⟨kinds, found, _⟩
    exact other kinds found

theorem tells_of_table (table : space.exports.table = .ofList calls) : space.Tells calls := by
  have typed (type : SymbolType) (name : String) (value : SymbolValue) :
      space.get? type name = some value ↔ value.type = type ∧ LastPublished calls name value := by
    rw [get?, table, SymbolTable.get?_ofList_eq_some_iff]
  have kind (name : String) (kind : ErrorKind) : space.exception? name = some kind ↔
      ∃ kinds, LastPublished calls SharedSymbols.exceptions (.errorKinds kinds) ∧
        kind ∈ kinds ∧ kind.name = name := by
    simp only [exception?_eq_some_iff, typed, SymbolValue.type, true_and]
  constructor
  case table => exact table
  case typed => exact typed
  case names =>
    rw [names, table]
    exact SymbolTable.names_ofList_perm calls
  case increasing => exact space.exports.table.symbols.keys_bytes_increasing
  case size =>
    rw [table, SymbolTable.size_ofList]
  case kind => exact kind
  case resolved =>
    intro kinds last published member
    exact (kind _ _).mpr ⟨kinds, last, member, rfl⟩
  case unresolved =>
    intro kinds last name unnamed
    cases found : space.exception? name with
    | none => rfl
    | some given =>
      obtain ⟨others, lastToo, member, named⟩ := (kind _ _).mp found
      cases last.unique lastToo
      exact absurd named (unnamed given member)

end Namespace

/-- A provider whose module publishes some symbols can be bound.  The namespace finds under a name the
value that was last published there, under its type and no other, lists every name once in the order of
bytes, and resolves just the names of the kinds that were last published. -/
theorem namespace_tells_published {loader : Loader} {id : ProviderId} {table : LoadTable}
    {live : LoadedModule} {calls : List (String × SymbolValue)}
    (loaded : (loader.load id table).1 = .ok live)
    (publishes : live.content.exports = some (.ofList calls)) :
    ∃ space, (Namespace.bind loader id table).1 = .ok space ∧ space.provider = id ∧
      space.Tells calls := by
  have exports : live.exports? = some ⟨live.serial, .ofList calls⟩ :=
    LoadedModule.exports?_eq_some_iff.mpr ⟨publishes, rfl⟩
  refine ⟨⟨id, live.serial, .ofList calls⟩, ?_, rfl, Namespace.tells_of_table rfl⟩
  rw [(Namespace.bind_spec loader id table).1, Namespace.ofLoad_eq_ok_iff]
  exact ⟨rfl, live, loaded, exports⟩

/-- Values that take the place of others, of the same type and of different ones, and a list of kinds
with repeats. -/
def SymbolTable.reissued : List (String × SymbolValue) :=
  [("answer", .text "41"),
    (SharedSymbols.exceptions, .errorKinds ErrorKind.all),
    ("answer", .foreign "Instant" "noon"),
    ("Zone", .word32 1),
    ("answer", .word32 42),
    (SharedSymbols.exceptions, .errorKinds [.rateLimited, .notFound, .rateLimited])]

/-- A provider that publishes them. -/
def StaticSource.reissuing : StaticSource :=
  empty.addModule "core"
    (TableProvider.mk BundledProvider.core.id [] (some (.ofList SymbolTable.reissued))).asModule

theorem namespace_tells_reissued :
    let loader := Loader.ofRegistry StaticSource.reissuing.source .empty
    ∃ space, (Namespace.bind loader BundledProvider.core.id .empty).1 = .ok space ∧
      space.get? .word32 "answer" = some (.word32 42) ∧ space.get? .text "answer" = none ∧
      space.get? (.foreign "Instant") "answer" = none ∧
      space.names.Perm ["answer", SharedSymbols.exceptions, "Zone"] ∧
      space.exception? "RateLimited" = some .rateLimited ∧ space.exception? "Unsupported" = none := by
  intro loader
  obtain ⟨space, bound, _, tells⟩ := @namespace_tells_published loader BundledProvider.core.id .empty
    _ SymbolTable.reissued rfl rfl
  have answer : LastPublished SymbolTable.reissued "answer" (.word32 42) :=
    ⟨SymbolTable.reissued.take 4, SymbolTable.reissued.drop 5, rfl, by decide⟩
  have kinds : LastPublished SymbolTable.reissued SharedSymbols.exceptions
      (.errorKinds [.rateLimited, .notFound, .rateLimited]) :=
    ⟨SymbolTable.reissued.take 5, [], rfl, by simp⟩
  have shadowed (type : SymbolType) (other : type ≠ .word32) : space.get? type "answer" = none := by
    refine Option.eq_none_iff_forall_ne_some.mpr ?_
    intro value found
    obtain ⟨typed, last⟩ := (tells.typed type "answer" value).mp found
    cases last.unique answer
    exact other typed.symm
  refine ⟨space, bound, ?_, shadowed _ (by decide), shadowed _ (by decide), tells.names, ?_, ?_⟩
  · exact (tells.typed _ _ _).mpr ⟨rfl, answer⟩
  · exact tells.resolved _ kinds .rateLimited (by decide)
  · exact tells.unresolved _ kinds "Unsupported" (by decide)

end ServiceRouting
