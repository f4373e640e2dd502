import ServiceRouting.Proofs.Router.Runs

/-!
# The first load decides

A loader is asked to load ids, for their status, for the number of attempts and for install hints,
in any order and against a source that may answer differently every time.  The source is asked once
for each id that is loaded, in the order of the first loads; the first load fills the slot, and
every later answer about the id is read off that slot (`first_load_decides`).
-/

set_option autoImplicit false

namespace ServiceRouting

/-! ## Requests to a loader -/

inductive LoaderRequest where
  | load (id : ProviderId)
  | status (id : ProviderId)
  | attempts (id : ProviderId)
  | installHint (id : ProviderId)
  deriving DecidableEq

namespace LoaderRequest

def request : LoaderRequest → Request
  | load id => .load id
  | status id => .status id
  | attempts id => .attempts id
  | installHint id => .installHint id

def loaded? : LoaderRequest → Option ProviderId
  | load id => some id
  | _ => none

theorem loaded?_eq_some_iff {request : LoaderRequest} {id : ProviderId} :
    request.loaded? = some id ↔ request = .load id := by
  cases request <;> simp [loaded?]

/-- The ids that are loaded, in the order of their first loads. -/
def firstLoads (requests : List LoaderRequest) : List ProviderId :=
  (requests.filterMap loaded?).eraseDups

theorem mem_firstLoads {requests : List LoaderRequest} {id : ProviderId} :
    id ∈ firstLoads requests ↔ .load id ∈ requests := by
  simp only [firstLoads, List.mem_eraseDups, List.mem_filterMap, loaded?_eq_some_iff]
  constructor
  · rintro ⟨request, member, rfl⟩
    exact member
  · intro member
    exact ⟨_, member, rfl⟩

end LoaderRequest

/-! ## Runs against a fresh loader -/

namespace Routing

theorem fresh_kept : (⟨.empty, none⟩ : SessionState).Kept := by
  rintro space ⟨⟩

variable [Matcher] (routing : Routing)

/-- The loader's table after some requests to a fresh loader. -/
def tableOf (requests : List LoaderRequest) : LoadTable :=
  (routing.after ⟨.empty, none⟩ (requests.map LoaderRequest.request)).table

def answersTo (requests : List LoaderRequest) : List Answer :=
  routing.answers ⟨.empty, none⟩ (requests.map LoaderRequest.request)

theorem answer_reading (state : SessionState) {request : LoaderRequest}
    (reading : request.loaded? = none) : (routing.answer state request.request).2 = state := by
  cases request with
  | load id => cases reading
  | status id => rfl
  | attempts id => rfl
  | installHint id => rfl

theorem tableOf_concat_load (before : List LoaderRequest) (id : ProviderId) :
    routing.tableOf (before ++ [.load id]) =
      (routing.loader.load id (routing.tableOf before)).2 := by
  rw [tableOf, List.map_append, after_append]
  exact congrArg (SessionState.table ∘ Prod.snd) (routing.answer_load _ id)

theorem tableOf_concat_reading (before : List LoaderRequest) {request : LoaderRequest}
    (reading : request.loaded? = none) :
    routing.tableOf (before ++ [request]) = routing.tableOf before := by
  rw [tableOf, List.map_append, after_append]
  exact congrArg SessionState.table (routing.answer_reading _ reading)

theorem wanted_requests (requests : List LoaderRequest) :
    (requests.map LoaderRequest.request).filterMap routing.wanted? =
      requests.filterMap LoaderRequest.loaded? := by
  rw [List.filterMap_map]
  refine List.filterMap_congr ?_
  intro request _
  cases request <;> rfl

/-- The table is settled, and the source has been asked for the ids that were loaded, in the order
of their first loads. -/
theorem tableOf_settled (requests : List LoaderRequest) :
    (routing.tableOf requests).Settled ∧
      (routing.tableOf requests).opened = LoaderRequest.firstLoads requests := by
  refine ⟨routing.settled_after fresh_kept LoadTable.settled_empty _, ?_⟩
  have opened := routing.opened_after fresh_kept LoadTable.settled_empty
    (requests.map LoaderRequest.request)
  rwa [wanted_requests] at opened

theorem answer?_tableOf_ne_none_iff {requests : List LoaderRequest} {id : ProviderId} :
    (routing.tableOf requests).answer? id ≠ none ↔ .load id ∈ requests := by
  obtain ⟨settled, opened⟩ := routing.tableOf_settled requests
  rw [← settled.mem_opened_iff, opened, LoaderRequest.mem_firstLoads]

theorem tableOf_append_grows (before later : List LoaderRequest) :
    (routing.tableOf before).Grows (routing.tableOf (before ++ later)) := by
  have kept := routing.kept_after fresh_kept (before.map LoaderRequest.request)
  rw [tableOf, tableOf, List.map_append, after_append]
  exact routing.grows_after kept (later.map LoaderRequest.request)

/-! ### The request at a position -/

variable {requests : List LoaderRequest} {position : Nat} {request : LoaderRequest}
  {id : ProviderId}

theorem answersTo_at (here : requests[position]? = some request) :
    ∃ bound, (routing.answersTo requests)[position]? =
      some (routing.answer ⟨routing.tableOf (requests.take position), bound⟩
        request.request).1 := by
  refine ⟨(routing.after ⟨.empty, none⟩
    ((requests.take position).map LoaderRequest.request)).bound, ?_⟩
  rw [answersTo, getElem?_answers, List.getElem?_map, here, ← List.map_take]
  rfl

theorem answersTo_load (here : requests[position]? = some (.load id)) :
    (routing.answersTo requests)[position]? =
      some (.ofLoad (routing.loader.load id (routing.tableOf (requests.take position))).1) := by
  obtain ⟨bound, answered⟩ := routing.answersTo_at here
  rw [answered, LoaderRequest.request, answer_load]

theorem tableOf_take_load (here : requests[position]? = some (.load id)) :
    routing.tableOf (requests.take (position + 1)) =
      (routing.loader.load id (routing.tableOf (requests.take position))).2 := by
  rw [List.take_add_one, here]
  exact routing.tableOf_concat_load _ id

theorem tableOf_take_reading (here : requests[position]? = some request)
    (reading : request.loaded? = none) :
    routing.tableOf (requests.take (position + 1)) = routing.tableOf (requests.take position) := by
  rw [List.take_add_one, here]
  exact routing.tableOf_concat_reading _ reading

/-- What a load answered stands in the slot of its id ever after. -/
theorem answer?_tableOf_of_load (here : requests[position]? = some (.load id)) {count : Nat}
    (past : position < count) :
    (routing.tableOf (requests.take count)).answer? id =
      some (routing.loader.load id (routing.tableOf (requests.take position))).1 := by
  obtain ⟨more, rfl⟩ := Nat.exists_eq_add_of_le (Nat.succ_le_of_lt past)
  rw [List.take_add]
  refine (routing.tableOf_append_grows _ _).answer? ?_
  rw [Nat.succ_eq_add_one, routing.tableOf_take_load here]
  exact routing.loader.answer?_load id _

/-- All loads of an id, wherever they stand, give one answer. -/
theorem loads_agree (here : requests[position]? = some (.load id)) {other : Nat}
    (there : requests[other]? = some (.load id)) :
    (routing.loader.load id (routing.tableOf (requests.take position))).1 =
      (routing.loader.load id (routing.tableOf (requests.take other))).1 := by
  have inside : position < requests.length := (List.getElem?_eq_some_iff.mp here).1
  have insideToo : other < requests.length := (List.getElem?_eq_some_iff.mp there).1
  have first := routing.answer?_tableOf_of_load here inside
  have second := routing.answer?_tableOf_of_load there insideToo
  exact Option.some.inj (first.symm.trans second)

end Routing

/-! ## Every run -/

/-- Whatever is asked of a fresh loader and however the source behaves: the source is asked once for
each id that is loaded, in the order of the first loads; only a first load changes the table, and it
answers what the source's answer comes to; all loads of an id give one answer, and from the first of
them on there is one attempt and the status tells that answer, failures included. -/
theorem first_load_decides [Matcher] (registry : Registry) (source : Source)
    (requests : List LoaderRequest) :
    let routing : Routing := ⟨registry, .ofRegistry source registry⟩
    let tableAfter (count : Nat) := routing.tableOf (requests.take count)
    let answers := routing.answersTo requests
    (∀ count, (tableAfter count).opened.Nodup ∧
      (tableAfter count).opened = LoaderRequest.firstLoads (requests.take count)) ∧
    (∀ position id, requests[position]? = some (.load id) →
      LoaderRequest.load id ∉ requests.take position →
        answers[position]? = some (.ofLoad
          (routing.loader.verdict (LoaderRequest.firstLoads (requests.take position)) id))) ∧
    (∀ position id, requests[position]? = some (.load id) →
      LoaderRequest.load id ∈ requests.take position →
        tableAfter (position + 1) = tableAfter position) ∧
    (∀ id, LoaderRequest.load id ∈ requests → ∃ outcome,
      (∀ position : Nat, requests[position]? = some (.load id) →
        answers[position]? = some (.ofLoad outcome)) ∧
      ∀ count, LoaderRequest.load id ∈ requests.take count →
        (tableAfter count).attempts id = 1 ∧ (tableAfter count).status id = .ofLoad outcome) ∧
    (∀ id count, LoaderRequest.load id ∉ requests.take count →
      (tableAfter count).attempts id = 0 ∧ (tableAfter count).status id = .notAttempted) ∧
    (∀ position id, requests[position]? = some (.status id) →
      answers[position]? = some (.status ((tableAfter position).status id)) ∧
        tableAfter (position + 1) = tableAfter position) ∧
    (∀ position id, requests[position]? = some (.attempts id) →
      answers[position]? = some (.count ((tableAfter position).attempts id)) ∧
        tableAfter (position + 1) = tableAfter position) ∧
    (∀ position id, requests[position]? = some (.installHint id) →
      answers[position]? = some (.hint (some (routing.loader.installHint id))) ∧
        tableAfter (position + 1) = tableAfter position) := by
  intro routing tableAfter answers
  have settled (count : Nat) := routing.tableOf_settled (requests.take count)
  have fresh {count : Nat} {id : ProviderId} (new : .load id ∉ requests.take count) :
      (tableAfter count).answer? id = none :=
    not_not.mp (routing.answer?_tableOf_ne_none_iff.not.mpr new)
  refine ⟨?_, ?_, ?_, ?_, ?_, ?_, ?_, ?_⟩
  · intro count
    exact ⟨(settled count).1.opened_nodup, (settled count).2⟩
  · intro position id here new
    rw [routing.answersTo_load here, routing.loader.load_of_fresh (fresh new),
      (routing.loader.attempt_spec id _).1, (settled position).2]
  · intro position id here old
    obtain ⟨answer, kept⟩ :=
      Option.ne_none_iff_exists'.mp (routing.answer?_tableOf_ne_none_iff.mpr old)
    refine (routing.tableOf_take_load here).trans ?_
    rw [routing.loader.load_of_answer kept]
  · intro id member
    obtain ⟨first, here⟩ := List.mem_iff_getElem?.mp member
    refine ⟨(routing.loader.load id (tableAfter first)).1, ?_, ?_⟩
    · intro position there
      rw [routing.answersTo_load there, routing.loads_agree there here]
    · intro count inside
      obtain ⟨position, there⟩ := List.mem_iff_getElem?.mp inside
      have bound : position < count := by
        have short := (List.getElem?_eq_some_iff.mp there).1
        rw [List.length_take] at short
        omega
      rw [List.getElem?_take_of_lt bound] at there
      have kept := routing.answer?_tableOf_of_load there bound
      rw [routing.loads_agree there here] at kept
      have present := routing.answer?_tableOf_ne_none_iff.mpr inside
      exact ⟨(settled count).1.attempts_of_answer present, LoadTable.status_of_answer kept⟩
  · intro id count new
    exact (settled count).1.of_fresh (fresh new)
  · intro position id here
    obtain ⟨bound, answered⟩ := routing.answersTo_at here
    exact ⟨answered, routing.tableOf_take_reading here rfl⟩
  · intro position id here
    obtain ⟨bound, answered⟩ := routing.answersTo_at here
    exact ⟨answered, routing.tableOf_take_reading here rfl⟩
  · intro position id here
    obtain ⟨bound, answered⟩ := routing.answersTo_at here
    exact ⟨answered, routing.tableOf_take_reading here rfl⟩

end ServiceRouting
