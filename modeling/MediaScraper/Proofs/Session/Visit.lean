import MediaScraper.Session

/-!
# Steps of a session

A step that succeeds hands its result to the next one, with the requests noted so far
(`bind_of_ok`). Asking a routine notes none (`ask_eq`).
-/

namespace MediaScraper.Session

variable {s : Session}

theorem bind_of_ok {α β : Type} {x : Visit α} {f : α → Visit β} {a : α}
    {requests after : List Request} (h : x requests = some (.ok a, after)) :
    (x >>= f) requests = f a after := by
  show Option.bind (x requests) _ = _
  rw [h]
  rfl

theorem exists_of_bind {α β : Type} {x : Visit α} {f : α → Visit β} {b : β}
    {requests after : List Request} (h : (x >>= f) requests = some (.ok b, after)) :
    ∃ a between, x requests = some (.ok a, between) ∧ f a between = some (.ok b, after) := by
  obtain ⟨⟨a, between⟩, hx, hf⟩ := Option.bind_eq_some_iff.1 h
  cases a with
  | error e => cases hf
  | ok a => exact ⟨a, between, hx, hf⟩

theorem ofExcept_apply {α : Type} (e : Except Failure α) (requests : List Request) :
    (ofExcept e : Visit α) requests = some (e, requests) := by
  cases e <;> rfl

theorem ask_eq {routine text : String} {inputs : List String}
    (h : s.interpreter.result? routine inputs = some (.ok text)) (requests : List Request) :
    s.ask routine inputs requests = some (.ok text, requests) := by
  rw [ask, h]
  rfl

theorem result?_of_ask {routine text : String} {inputs : List String}
    {requests after : List Request}
    (h : s.ask routine inputs requests = some (.ok text, after)) :
    s.interpreter.result? routine inputs = some (.ok text) ∧ after = requests := by
  obtain ⟨result, hresult, heq⟩ := Option.map_eq_some_iff.1 h
  cases result with
  | error e => cases heq
  | ok text => exact ⟨hresult.trans (by cases heq; rfl), by cases heq; rfl⟩

end MediaScraper.Session
