import ServiceRouting.Proofs.Router.Requests

/-!
# Runs of a session, request by request

A run gives the answers all at once.  Here they are told apart: the answer to the request at a
position is the answer given in the state that the requests before it leave (`getElem?_answers`).
The openings after a run are those from before with the ids that the requests want, each where it
comes first (`opened_after`).
-/

set_option autoImplicit false

namespace ServiceRouting

namespace Routing

variable [Matcher] (routing : Routing)

/-- The state that a list of requests leaves. -/
def after (state : SessionState) (requests : List Request) : SessionState :=
  (routing.run state requests).2

def answers (state : SessionState) (requests : List Request) : List Answer :=
  (routing.run state requests).1

@[simp] theorem after_nil (state : SessionState) : routing.after state [] = state := rfl

@[simp] theorem after_cons (state : SessionState) (request : Request) (rest : List Request) :
    routing.after state (request :: rest) =
      routing.after (routing.answer state request).2 rest := rfl

@[simp] theorem answers_nil (state : SessionState) : routing.answers state [] = [] := rfl

@[simp] theorem answers_cons (state : SessionState) (request : Request) (rest : List Request) :
    routing.answers state (request :: rest) =
      (routing.answer state request).1 ::
        routing.answers (routing.answer state request).2 rest := rfl

theorem after_append (state : SessionState) (first second : List Request) :
    routing.after state (first ++ second) =
      routing.after (routing.after state first) second := by
  induction first generalizing state with
  | nil => rfl
  | cons request rest ih => exact ih _

/-- The answer at a position is given in the state that the requests before it leave. -/
theorem getElem?_answers (state : SessionState) (requests : List Request) (position : Nat) :
    (routing.answers state requests)[position]? =
      requests[position]?.map fun request =>
        (routing.answer (routing.after state (requests.take position)) request).1 := by
  induction requests generalizing state position with
  | nil => simp
  | cons first rest ih =>
    cases position with
    | zero => simp
    | succ position => simpa using ih (routing.answer state first).2 position

/-! ## What a run leaves of the table -/

variable {state : SessionState}

theorem after_concat (before : List Request) (request : Request) :
    routing.after state (before ++ [request]) =
      (routing.answer (routing.after state before) request).2 :=
  routing.after_append state before [request]

theorem kept_after (kept : state.Kept) (requests : List Request) :
    (routing.after state requests).Kept := by
  induction requests generalizing state with
  | nil => exact kept
  | cons request rest ih => exact ih (routing.kept_answer kept request)

theorem holds_after {holds : LoadTable → Prop} (keeps : routing.loader.Keeps holds)
    (kept : state.Kept) (now : holds state.table) (requests : List Request) :
    holds (routing.after state requests).table := by
  induction requests generalizing state with
  | nil => exact now
  | cons request rest ih => exact ih (routing.kept_answer kept request) (keeps.answer kept now request)

theorem grows_after (kept : state.Kept) (requests : List Request) :
    state.table.Grows (routing.after state requests).table :=
  routing.holds_after (routing.loader.keeps_grows state.table) kept (.refl state.table) requests

theorem settled_after (kept : state.Kept) (settled : state.table.Settled)
    (requests : List Request) : (routing.after state requests).table.Settled :=
  routing.holds_after routing.loader.keeps_settled kept settled requests

theorem allAnswers_after {holds : ProviderId → Except Unavailable LoadedModule → Prop}
    (first : ∀ earlier id, holds id (routing.loader.verdict earlier id)) (kept : state.Kept)
    (all : state.table.AllAnswers holds) (requests : List Request) :
    (routing.after state requests).table.AllAnswers holds :=
  routing.holds_after (routing.loader.keeps_allAnswers first) kept all requests

theorem opened_after (kept : state.Kept) (settled : state.table.Settled)
    (requests : List Request) :
    (routing.after state requests).table.opened =
      (state.table.opened ++ requests.filterMap routing.wanted?).eraseDups := by
  -- From the end of the run: the last request adds its id to all that were wanted before.
  induction requests using List.reverseRecOn with
  | nil =>
    rw [List.filterMap_nil, List.append_nil, FirstOccurrences.of_nodup settled.opened_nodup]
    rfl
  | append_singleton before request ih =>
    rw [after_concat, routing.opened_answer (routing.kept_after kept before)
      (routing.settled_after kept settled before), ih, List.filterMap_append, ← List.append_assoc]
    cases wanted : routing.wanted? request with
    | none =>
      simp only [Option.toList_none, List.append_nil, List.filterMap_cons, wanted,
        List.filterMap_nil]
      exact FirstOccurrences.of_nodup (FirstOccurrences.nodup _)
    | some id =>
      simp only [Option.toList_some, List.filterMap_cons, wanted, List.filterMap_nil]
      exact FirstOccurrences.concat_eraseDups _ id

end Routing

end ServiceRouting
