import MediaScraper.Failure
import MediaScraper.Proofs.Text.Reading
import MediaScraper.Proofs.Xml.Tag

/-!
# Following the events of a text

Readers of documents fold a step over the events of a text, and report a fault of the markup behind
the events that precede it. `followFrom` is such a reading from the middle of a text on, where some
elements are open. It takes tags and texts one after the other (`followFrom_startTag`,
`followFrom_endTag`, `followFrom_emptyTag`, `followFrom_text`), so what a reader does on a document
is shown by recursion on how the document is written.
-/

namespace MediaScraper.Xml

variable {σ : Type} (step : σ → Event → Except Failure σ)

/-- Follow the events of a reading. -/
def Reading.follow (state : σ) (reading : Reading) : Except Failure σ := do
  let last ← reading.events.foldlM step state
  match reading.fault with
  | some e => throw (.unreadable (.markup e))
  | none => return last

/-- Follow the events of what is left of a text; `opened` are the names of the open elements,
innermost first. -/
def followFrom (opened : List (List Char)) (state : σ) (s : List Char) : Except Failure σ :=
  (nestFrom (Text.items event s).2 opened [] (Text.items event s).1).follow step state

theorem nestFrom_passed (fault : Option Error) (opened : List (List Char))
    (passed es : List Event) :
    nestFrom fault opened passed es =
      ⟨passed.reverse ++ (nestFrom fault opened [] es).events,
        (nestFrom fault opened [] es).fault⟩ := by
  induction es generalizing opened passed with
  | nil => simp [nestFrom]
  | cons e es ih =>
    have hstep (opened' : List (List Char)) : nestFrom fault opened' (e :: passed) es =
        ⟨passed.reverse ++ (nestFrom fault opened' [e] es).events,
          (nestFrom fault opened' [e] es).fault⟩ := by
      rw [ih, ih opened' [e]]
      simp
    cases e with
    | closing name =>
      cases opened with
      | nil => simp [nestFrom]
      | cons expected opened =>
        simp only [nestFrom]
        split
        · exact hstep opened
        · simp
    | _ => exact hstep _

theorem Reading.follow_cons (state : σ) (e : Event) (es : List Event) (fault : Option Error) :
    Reading.follow step state ⟨e :: es, fault⟩ =
      step state e >>= fun next => Reading.follow step next ⟨es, fault⟩ := by
  simp only [Reading.follow, List.foldlM_cons]
  cases step state e <;> rfl

/-- One event from the beginning of a text: a step, and then the rest of the text, with the open
elements that nesting finds there. -/
theorem followFrom_of_event {w rest : List Char} (hw : w ≠ []) {e : Event}
    (h : event (w ++ rest) = .ok (e, w.length)) {opened opened' : List (List Char)}
    (hnest : ∀ fault es, nestFrom fault opened [] (e :: es) = nestFrom fault opened' [e] es)
    (state : σ) :
    followFrom step opened state (w ++ rest) =
      step state e >>= fun next => followFrom step opened' next rest := by
  rw [followFrom, Text.items_of_ok hw h, hnest, nestFrom_passed]
  exact Reading.follow_cons step state e _ _

/-- The names of the open elements behind an event that fits them. -/
def openBehind? (opened : List (List Char)) : Event → Option (List (List Char))
  | .opening tag => some (tag.name :: opened)
  | .closing name =>
    match opened with
    | [] => none
    | expected :: opened => if name = expected then some opened else none
  | _ => some opened

theorem nestFrom_of_openBehind? {opened opened' : List (List Char)} {e : Event}
    (h : openBehind? opened e = some opened') (fault : Option Error) (es : List Event) :
    nestFrom fault opened [] (e :: es) = nestFrom fault opened' [e] es := by
  cases e with
  | closing name =>
    cases opened with
    | nil => cases h
    | cons expected opened =>
      rw [openBehind?] at h
      split at h
      · next hname =>
        cases h
        rw [nestFrom, if_pos hname]
      · cases h
  | _ =>
    cases h
    rfl

theorem follow_of_openBehind?_eq_none {opened : List (List Char)} {e : Event}
    (h : openBehind? opened e = none) (fault : Option Error) (es : List Event) (state last : σ) :
    (nestFrom fault opened [] (e :: es)).follow step state ≠ .ok last := by
  cases e with
  | closing name =>
    cases opened with
    | nil => exact nofun
    | cons expected opened =>
      rw [openBehind?] at h
      split at h
      · cases h
      · next hname =>
        rw [nestFrom, if_neg hname]
        exact nofun
  | _ => cases h

theorem exists_of_followFrom {w rest : List Char} (hw : w ≠ []) {e : Event}
    (h : event (w ++ rest) = .ok (e, w.length)) {opened : List (List Char)} {state last : σ}
    (hfollow : followFrom step opened state (w ++ rest) = .ok last) :
    ∃ opened' next, openBehind? opened e = some opened' ∧ step state e = .ok next ∧
      followFrom step opened' next rest = .ok last := by
  cases hopen : openBehind? opened e with
  | none =>
    rw [followFrom, Text.items_of_ok hw h] at hfollow
    exact (follow_of_openBehind?_eq_none step hopen _ _ _ _ hfollow).elim
  | some opened' =>
    rw [followFrom_of_event step hw h (nestFrom_of_openBehind? hopen)] at hfollow
    cases hstep : step state e with
    | error failure =>
      rw [hstep] at hfollow
      cases hfollow
    | ok next =>
      rw [hstep] at hfollow
      exact ⟨opened', next, rfl, rfl, hfollow⟩

theorem exists_event_of_followFrom {s : List Char} (hs : s ≠ []) {opened : List (List Char)}
    {state last : σ} (h : followFrom step opened state s = .ok last) :
    ∃ e n, event s = .ok (e, n) := by
  cases hevent : event s with
  | ok item => exact ⟨item.1, item.2, rfl⟩
  | error fault =>
    cases s with
    | nil => exact absurd rfl hs
    | cons c s =>
      rw [followFrom, Text.items, Text.itemsFrom, hevent] at h
      cases h

theorem followFrom_nil (opened : List (List Char)) (state : σ) :
    followFrom step opened state [] = .ok state := rfl

section

variable {name : List Char} (hn : IsName name) {as : List Attribute} (h : ∀ a ∈ as, a.Written)
include hn h

theorem followFrom_startTag (opened : List (List Char)) (state : σ) (rest : List Char) :
    followFrom step opened state (startTag name as ++ rest) =
      step state (.opening ⟨name, tagSource name as⟩) >>= fun next =>
        followFrom step (name :: opened) next rest :=
  followFrom_of_event step (by simp [startTag]) (event_startTag hn h rest) (fun _ _ => rfl) state

theorem followFrom_emptyTag (opened : List (List Char)) (state : σ) (rest : List Char) :
    followFrom step opened state (emptyTag name as ++ rest) =
      step state (.selfClosed ⟨name, tagSource name as⟩) >>= fun next =>
        followFrom step opened next rest :=
  followFrom_of_event step (by simp [emptyTag]) (event_emptyTag hn h rest) (fun _ _ => rfl) state

end

theorem followFrom_endTag {name : List Char} (hn : IsName name) (opened : List (List Char))
    (state : σ) (rest : List Char) :
    followFrom step (name :: opened) state (endTag name ++ rest) =
      step state (.closing name) >>= fun next => followFrom step opened next rest := by
  refine followFrom_of_event step (by simp [endTag]) (event_endTag hn rest) (fun _ _ => ?_) state
  rw [nestFrom, if_pos rfl]

/-- An element: a step into it, its content, and a step out of it, however it is spelled. The reader
takes a tag that closes itself for a start tag with an end tag. -/
theorem followFrom_element
    (hself : ∀ state tag, step state (.selfClosed tag) =
      step state (.opening tag) >>= fun inside => step inside (.closing tag.name))
    {name content element : List Char} {values : List (List Char × String)}
    (h : Encloses name values content element) (hn : IsName name) (hv : ∀ v ∈ values, IsName v.1)
    {opened : List (List Char)} {state inside last : σ}
    (hopen : ∀ as, List.Forall₂ Attribute.Spells as values →
      step state (.opening ⟨name, tagSource name as⟩) = .ok inside)
    (hcontent : ∀ rest : List Char, (∀ c ∈ rest.head?, c = '<') →
      followFrom step (name :: opened) inside (content ++ rest) =
        followFrom step (name :: opened) last rest) (rest : List Char) :
    followFrom step opened state (element ++ rest) =
      step last (.closing name) >>= fun next => followFrom step opened next rest := by
  cases h with
  | @tags as _ has =>
    rw [List.append_assoc, List.append_assoc,
      followFrom_startTag step hn (written_of_spells has hv), hopen as has]
    refine (hcontent _ fun c hc => ?_).trans (followFrom_endTag step hn opened last rest)
    exact (Option.some.inj hc).symm
  | @empty as has =>
    -- Without content, the state in the element is the one at its end.
    have hlast : inside = last := by
      have hnil := hcontent [] fun c hc => absurd hc (by simp)
      rw [List.append_nil, followFrom_nil, followFrom_nil] at hnil
      exact Except.ok.inj hnil
    rw [followFrom_emptyTag step hn (written_of_spells has hv), hself, hopen as has, hlast]
    rfl

theorem followFrom_text {raw : List Char} (hraw : '<' ∉ raw) {rest : List Char}
    (hrest : ∀ c ∈ rest.head?, c = '<') {opened : List (List Char)} {state next : σ}
    (hstep : raw ≠ [] → step state (.text raw) = .ok next) (hnil : raw = [] → next = state) :
    followFrom step opened state (raw ++ rest) = followFrom step opened next rest := by
  by_cases hne : raw = []
  · rw [hnil hne, hne, List.nil_append]
  · rw [followFrom_of_event step hne (event_text hne hraw hrest) (fun _ _ => rfl), hstep hne]
    rfl

/-- Where text does not matter, one character of it can be left out. -/
theorem followFrom_cons_of_ignored {state : σ} (hstep : ∀ raw, step state (.text raw) = .ok state)
    (opened : List (List Char)) {c : Char} (hc : c ≠ '<') (s : List Char) :
    followFrom step opened state (c :: s) = followFrom step opened state s := by
  -- Both texts are read as if the stretch up to the next tag were not there.
  have hskip (raw : List Char) (hraw : '<' ∉ raw) :
      followFrom step opened state (raw ++ s.dropWhile (· ≠ '<')) =
        followFrom step opened state (s.dropWhile (· ≠ '<')) := by
    refine followFrom_text step hraw (fun d hd => ?_) (fun _ => hstep raw) fun _ => rfl
    have hhead := List.head?_dropWhile_not (· ≠ '<') s
    rw [Option.mem_def.1 hd] at hhead
    simpa using hhead
  have hstretch : '<' ∉ s.takeWhile (· ≠ '<') := fun hmem => by
    simpa using List.mem_takeWhile_imp hmem
  calc followFrom step opened state (c :: s)
      = followFrom step opened state
          (c :: s.takeWhile (· ≠ '<') ++ s.dropWhile (· ≠ '<')) := by
        rw [List.cons_append, List.takeWhile_append_dropWhile]
    _ = followFrom step opened state (s.dropWhile (· ≠ '<')) :=
        hskip _ (List.not_mem_cons_of_ne_of_not_mem hc.symm hstretch)
    _ = followFrom step opened state (s.takeWhile (· ≠ '<') ++ s.dropWhile (· ≠ '<')) :=
        (hskip _ hstretch).symm
    _ = followFrom step opened state s := by rw [List.takeWhile_append_dropWhile]

theorem followFrom_spaces {state : σ} (hstep : ∀ raw, step state (.text raw) = .ok state)
    (opened : List (List Char)) {spaces : List Char} (hs : ∀ c ∈ spaces, isSpace c = true)
    (rest : List Char) :
    followFrom step opened state (spaces ++ rest) = followFrom step opened state rest := by
  induction spaces with
  | nil => rfl
  | cons c spaces ih =>
    have hne : c ≠ '<' := by
      rintro rfl
      exact absurd (hs _ List.mem_cons_self) (by decide)
    rw [List.cons_append, followFrom_cons_of_ignored step hstep opened hne]
    exact ih fun d hd => hs d (List.mem_cons_of_mem c hd)

/-! ## One after the other -/

/-- `InSequence Writes as s`: `s` writes these items in order, with spaces between them. -/
inductive InSequence {α : Type} (Writes : α → List Char → Prop) : List α → List Char → Prop
  | nil : InSequence Writes [] []
  | space {as : List α} {c : Char} {s : List Char} :
      isSpace c = true → InSequence Writes as s → InSequence Writes as (c :: s)
  | item {a : α} {as : List α} {w s : List Char} :
      Writes a w → InSequence Writes as s → InSequence Writes (a :: as) (w ++ s)

theorem exists_inSequence {α : Type} {Writes : α → List Char → Prop} {as : List α}
    (h : ∀ a ∈ as, ∃ w, Writes a w) : ∃ s, InSequence Writes as s := by
  induction as with
  | nil => exact ⟨[], .nil⟩
  | cons a as ih =>
    obtain ⟨w, hw⟩ := h a List.mem_cons_self
    obtain ⟨s, hs⟩ := ih fun b hb => h b (List.mem_cons_of_mem a hb)
    exact ⟨w ++ s, .item hw hs⟩

/-- What each item does to a state, a sequence of them does in order. `state b` are the states
between the items, in which text does not matter. -/
theorem followFrom_inSequence {α β : Type} {Writes : α → List Char → Prop} {as : List α}
    {s : List Char} (h : InSequence Writes as s) (opened : List (List Char)) (state : β → σ)
    (put : β → α → β) (hidle : ∀ b raw, step (state b) (.text raw) = .ok (state b))
    (hitem : ∀ a ∈ as, ∀ w, Writes a w → ∀ b rest,
      followFrom step opened (state b) (w ++ rest) = followFrom step opened (state (put b a)) rest)
    (b : β) (rest : List Char) :
    followFrom step opened (state b) (s ++ rest) =
      followFrom step opened (state (as.foldl put b)) rest := by
  induction h generalizing b with
  | nil => rfl
  | space hc _ ih =>
    rw [← List.singleton_append, List.append_assoc, followFrom_spaces step (hidle b)]
    · exact ih hitem b
    · exact List.forall_mem_singleton.2 hc
  | @item a _ w _ hw _ ih =>
    rw [List.append_assoc, hitem a List.mem_cons_self w hw, List.foldl_cons]
    exact ih (fun x hx => hitem x (List.mem_cons_of_mem a hx)) (put b a)

end MediaScraper.Xml
