import Mathlib.Data.List.Induction
import ServiceRouting.Loader.Threads
import ServiceRouting.Proofs.Loader.Slots

/-!
# Calls one after the other

The loader's calls without any concurrency: what a list of calls answers and which table it leaves.
Every load of an id answers what the table keeps for the id in the end (`served_load`).
-/

set_option autoImplicit false

namespace ServiceRouting

namespace Loader

variable (loader : Loader)

theorem callAll_append (table : LoadTable) (first second : List LoaderCall) :
    loader.callAll table (first ++ second) =
      ((loader.callAll table first).1 ++
          (loader.callAll (loader.callAll table first).2 second).1,
        (loader.callAll (loader.callAll table first).2 second).2) := by
  induction first generalizing table with
  | nil => rfl
  | cons call rest ih => simp [callAll, ih]

theorem length_callAll (table : LoadTable) (calls : List LoaderCall) :
    (loader.callAll table calls).1.length = calls.length := by
  induction calls generalizing table with
  | nil => rfl
  | cons call rest ih => simp [callAll, ih]

theorem call_settled {table : LoadTable} (settled : table.Settled) (call : LoaderCall) :
    (loader.call table call).2.Settled := by
  cases call with
  | load id => exact loader.load_settled id settled
  | status id => exact settled
  | attempts id => exact settled

theorem call_grows (table : LoadTable) (call : LoaderCall) :
    table.Grows (loader.call table call).2 := by
  cases call with
  | load id => exact loader.load_grows id table
  | status id => exact .refl table
  | attempts id => exact .refl table

/-! ## Calls of several threads in one order -/

/-- The table after the calls, made one after the other on a fresh table. -/
def serialTable (entries : List (Nat × LoaderCall)) : LoadTable :=
  (loader.callAll .empty (entries.map Prod.snd)).2

/-- The calls with their answers when they are made one after the other on a fresh table. -/
def served (entries : List (Nat × LoaderCall)) : List ((Nat × LoaderCall) × LoaderAnswer) :=
  entries.zip (loader.callAll .empty (entries.map Prod.snd)).1

/-- The part of one thread in it. -/
def exchanges (entries : List (Nat × LoaderCall)) (index : Nat) :
    List (LoaderCall × LoaderAnswer) :=
  ((loader.served entries).filter fun exchange => exchange.1.1 = index).map
    fun exchange => (exchange.1.2, exchange.2)

theorem serialTable_concat (entries : List (Nat × LoaderCall)) (index : Nat) (call : LoaderCall) :
    loader.serialTable (entries ++ [(index, call)]) =
      (loader.call (loader.serialTable entries) call).2 := by
  simp [serialTable, callAll_append, callAll]

theorem served_concat (entries : List (Nat × LoaderCall)) (index : Nat) (call : LoaderCall) :
    loader.served (entries ++ [(index, call)]) =
      loader.served entries ++
        [((index, call), (loader.call (loader.serialTable entries) call).1)] := by
  have lengths : entries.length =
      (loader.callAll .empty (entries.map Prod.snd)).1.length := by
    rw [length_callAll, List.length_map]
  rw [served, List.map_append, callAll_append, List.zip_append lengths]
  rfl

theorem exchanges_concat_self (entries : List (Nat × LoaderCall)) (index : Nat)
    (call : LoaderCall) :
    loader.exchanges (entries ++ [(index, call)]) index =
      loader.exchanges entries index ++
        [(call, (loader.call (loader.serialTable entries) call).1)] := by
  simp [exchanges, served_concat]

theorem exchanges_concat_of_ne (entries : List (Nat × LoaderCall)) {index other : Nat}
    (call : LoaderCall) (different : index ≠ other) :
    loader.exchanges (entries ++ [(index, call)]) other = loader.exchanges entries other := by
  simp [exchanges, served_concat, different]

theorem mem_exchanges {entries : List (Nat × LoaderCall)} {index : Nat} {call : LoaderCall}
    {answer : LoaderAnswer} :
    (call, answer) ∈ loader.exchanges entries index ↔
      ((index, call), answer) ∈ loader.served entries := by
  simp only [exchanges, List.mem_map, List.mem_filter, decide_eq_true_eq]
  constructor
  · rintro ⟨⟨⟨thread, made⟩, given⟩, ⟨member, rfl⟩, same⟩
    cases same
    exact member
  · intro member
    exact ⟨_, ⟨member, rfl⟩, rfl⟩

theorem serialTable_settled (entries : List (Nat × LoaderCall)) :
    (loader.serialTable entries).Settled := by
  induction entries using List.reverseRecOn with
  | nil => exact LoadTable.settled_empty
  | append_singleton before entry ih =>
    rw [serialTable_concat]
    exact loader.call_settled ih entry.2

/-- Every load of an id answers what the table keeps for it in the end. -/
theorem served_load {entries : List (Nat × LoaderCall)} {index : Nat} {id : ProviderId}
    {answer : LoaderAnswer} (member : ((index, .load id), answer) ∈ loader.served entries) :
    ∃ outcome, answer = .loaded outcome ∧
      (loader.serialTable entries).answer? id = some outcome := by
  induction entries using List.reverseRecOn with
  | nil => cases member
  | append_singleton before entry ih =>
    obtain ⟨thread, call⟩ := entry
    rw [served_concat] at member
    rw [serialTable_concat]
    rcases List.mem_append.mp member with early | last
    · obtain ⟨outcome, answered, kept⟩ := ih early
      exact ⟨outcome, answered, (loader.call_grows _ call).answer? kept⟩
    · cases List.mem_singleton.mp last
      exact ⟨_, rfl, loader.answer?_load id _⟩

end Loader

end ServiceRouting
