import MediaScraper.Proofs.Xml.Tag
import MediaScraper.Url

/-!
# Options of urls

The attributes of a url element give its options, in any order and among attributes of other names
(`Url.Options`). An attribute changes one option at most (`withAttribute_eq`), so options read from
attributes of different names do not depend on one another (`foldl_withAttribute`), and a tag is read
as the options that its attributes give (`ofTag_of_attributes`).
-/

namespace MediaScraper.Url

open Xml

/-! ## Attributes that give options -/

/-- What a flag is read as, if it is there. -/
def flagIn (values : List (List Char × String)) (name : List Char) : Bool :=
  ((values.lookup name).bind parseFlag).getD false

/-- The attributes give the options of the url. -/
structure Options (u : Url) (values : List (List Char × String)) : Prop where
  fit : NamesFit values
  routine : values.lookup "function".toList = u.routine
  post : flagIn values "post".toList = u.post
  spoof : values.lookup "spoof".toList = u.spoof
  cache : values.lookup "cache".toList = u.cache
  gzip : flagIn values "gzip".toList = u.gzip

/-- One attribute for each option. -/
def values (u : Url) : List (List Char × String) :=
  (u.routine.map fun f => ("function".toList, f)).toList ++
    (u.spoof.map fun s => ("spoof".toList, s)).toList ++
    (u.cache.map fun c => ("cache".toList, c)).toList ++
    [("post".toList, if u.post then "yes" else "no"),
      ("gzip".toList, if u.gzip then "yes" else "no")]

theorem namesFit_values (u : Url) : NamesFit u.values := by
  cases hr : u.routine <;> cases hs : u.spoof <;> cases hc : u.cache <;>
    simp only [values, hr, hs, hc, NamesFit, Option.map, Option.toList, List.map_cons,
      List.map_nil, List.nil_append, List.cons_append] <;> decide

theorem lookup_values (u : Url) :
    u.values.lookup "function".toList = u.routine ∧ u.values.lookup "spoof".toList = u.spoof ∧
      u.values.lookup "cache".toList = u.cache ∧
      u.values.lookup "post".toList = some (if u.post then "yes" else "no") ∧
      u.values.lookup "gzip".toList = some (if u.gzip then "yes" else "no") := by
  cases hr : u.routine <;> cases hs : u.spoof <;> cases hc : u.cache <;>
    simp only [values, hr, hs, hc] <;> exact ⟨rfl, rfl, rfl, rfl, rfl⟩

theorem options_values (u : Url) : u.Options u.values := by
  have hflag (b : Bool) : (parseFlag (if b then "yes" else "no")).getD false = b := by
    cases b <;> decide
  obtain ⟨hroutine, hspoof, hcache, hpost, hgzip⟩ := lookup_values u
  exact
    { fit := namesFit_values u
      routine := hroutine
      post := by rw [flagIn, hpost, Option.bind_some, hflag]
      spoof := hspoof
      cache := hcache
      gzip := by rw [flagIn, hgzip, Option.bind_some, hflag] }

/-! ## Reading them -/

/-- An option that only the attribute of its name changes is what that attribute makes of it. -/
theorem get_foldl_withAttribute {β : Type} (get : Url → β) (name : List Char)
    (take : String → β → β) (hself : ∀ u v, get (u.withAttribute name v) = take v (get u))
    (hother : ∀ u n v, n ≠ name → get (u.withAttribute n v) = get u)
    {values : List (List Char × String)} (h : (values.map Prod.fst).Nodup) (u : Url) :
    get (values.foldl (fun u v => u.withAttribute v.1 v.2) u) =
      (values.lookup name).elim (get u) fun v => take v (get u) := by
  induction values generalizing u with
  | nil => rfl
  | cons v values ih =>
    obtain ⟨n, value⟩ := v
    obtain ⟨hnew, h⟩ := List.nodup_cons.1 h
    rw [List.foldl_cons, ih h, List.lookup_cons]
    by_cases hn : name = n
    · subst hn
      have hnone : values.lookup name = none :=
        List.lookup_eq_none_iff.2 fun p hp => by
          have hne : name ≠ p.1 := fun heq => hnew (heq ▸ List.mem_map.2 ⟨p, hp, rfl⟩)
          simpa using hne
      rw [hnone, beq_self_eq_true]
      exact hself u value
    · rw [beq_false_of_ne hn, hother u n value (Ne.symm hn)]

theorem withAttribute_eq (u : Url) (n : List Char) (v : String) :
    u.withAttribute n v =
      { address := u.address
        routine := if n = "function".toList ∧ allBlank v = false then some v else u.routine
        post := if n = "post".toList then (parseFlag v).getD false else u.post
        spoof := if n = "spoof".toList then some v else u.spoof
        cache := if n = "cache".toList then some v else u.cache
        gzip := if n = "gzip".toList then (parseFlag v).getD false else u.gzip } := by
  by_cases h1 : n = "function".toList
  · subst h1
    cases hv : allBlank v
    · simp only [withAttribute, hv]
      rfl
    · simp only [withAttribute, hv]
      rfl
  by_cases h2 : n = "post".toList
  · subst h2
    rfl
  by_cases h3 : n = "spoof".toList
  · subst h3
    rfl
  by_cases h4 : n = "cache".toList
  · subst h4
    rfl
  by_cases h5 : n = "gzip".toList
  · subst h5
    rfl
  · simp only [withAttribute, h1, h2, h3, h4, h5, false_and, if_false]

/-- Options read from attributes of different names do not depend on one another. -/
theorem foldl_withAttribute {values : List (List Char × String)}
    (h : (values.map Prod.fst).Nodup) :
    values.foldl (fun u v => u.withAttribute v.1 v.2) (ofAddress "") =
      { address := ""
        routine := (values.lookup "function".toList).filter fun f => !allBlank f
        post := flagIn values "post".toList
        spoof := values.lookup "spoof".toList
        cache := values.lookup "cache".toList
        gzip := flagIn values "gzip".toList } := by
  have hlookup {β : Type} (get : Url → β) (name : List Char) (take : String → β → β)
      (htake : ∀ u n v, get (u.withAttribute n v) = if n = name then take v (get u) else get u) :=
    get_foldl_withAttribute get name take (fun u v => (htake u name v).trans (if_pos rfl))
      (fun u n v hn => (htake u n v).trans (if_neg hn)) h (ofAddress "")
  have haddress := hlookup address [] (fun _ a => a) fun u n v => by
    rw [withAttribute_eq, ite_self]
  have hroutine := hlookup routine "function".toList
    (fun v r => if allBlank v = false then some v else r) fun u n v => by
      rw [withAttribute_eq, ite_and]
  have hpost := hlookup post "post".toList (fun v _ => (parseFlag v).getD false) fun u n v => by
    rw [withAttribute_eq]
  have hspoof := hlookup spoof "spoof".toList (fun v _ => some v) fun u n v => by
    rw [withAttribute_eq]
  have hcache := hlookup cache "cache".toList (fun v _ => some v) fun u n v => by
    rw [withAttribute_eq]
  have hgzip := hlookup gzip "gzip".toList (fun v _ => (parseFlag v).getD false) fun u n v => by
    rw [withAttribute_eq]
  generalize values.foldl (fun u v => u.withAttribute v.1 v.2) (ofAddress "") = url at *
  obtain ⟨a, r, p, s, c, g⟩ := url
  rw [Url.mk.injEq]
  refine ⟨haddress.trans ?_, hroutine.trans ?_, hpost.trans ?_, hspoof.trans ?_, hcache.trans ?_,
    hgzip.trans ?_⟩
  · cases values.lookup [] <;> rfl
  · cases values.lookup "function".toList with
    | none => rfl
    | some f => cases hf : allBlank f <;> simp [Option.filter, hf, ofAddress]
  · rw [flagIn]
    cases values.lookup "post".toList <;> rfl
  · cases values.lookup "spoof".toList <;> rfl
  · cases values.lookup "cache".toList <;> rfl
  · rw [flagIn]
    cases values.lookup "gzip".toList <;> rfl

theorem foldlM_of_forall₂ {α β γ ε : Type} {R : α → γ → Prop} {f : β → α → Except ε β}
    {g : β → γ → β} {as : List α} {cs : List γ} (h : List.Forall₂ R as cs)
    (hf : ∀ b a c, R a c → f b a = .ok (g b c)) (b : β) :
    as.foldlM f b = .ok (cs.foldl g b) := by
  induction h generalizing b with
  | nil => rfl
  | cons hac _ ih =>
    rw [List.foldlM_cons, hf _ _ _ hac]
    exact ih _

theorem ofTag_of_attributes {u : Url} {tag : Tag} {as : List Attribute}
    {values : List (List Char × String)} (htag : tag.attributes = (as, none))
    (h : List.Forall₂ (fun a v => a.name = v.1 ∧ a.value = .ok v.2) as values) (hu : u.Options values)
    (hroutine : ∀ f ∈ u.routine, allBlank f = false) : ofTag tag = .ok { u with address := "" } := by
  have hread : ofTag tag =
      .ok (values.foldl (fun u v => u.withAttribute v.1 v.2) (ofAddress "")) := by
    rw [ofTag, htag]
    simp only
    rw [foldlM_of_forall₂ h]
    · rfl
    · rintro url a v ⟨hname, hvalue⟩
      rw [hvalue, hname]
  have hfilter : u.routine.filter (fun f => !allBlank f) = u.routine := by
    cases hf : u.routine with
    | none => rfl
    | some f => rw [Option.filter_some, hroutine f hf, Bool.not_false, if_pos rfl]
  rw [hread, foldl_withAttribute hu.fit.2, hu.routine, hu.post, hu.spoof, hu.cache, hu.gzip,
    hfilter]

/-- **The options of a written url are read back.** -/
theorem ofTag_ofWritten {u : Url} {as : List Attribute} {values : List (List Char × String)}
    (h : List.Forall₂ Attribute.Spells as values) (hu : u.Options values)
    (hroutine : ∀ f ∈ u.routine, allBlank f = false) :
    ofTag ⟨elementName, tagSource elementName as⟩ = .ok { u with address := "" } :=
  ofTag_of_attributes (attributes_ofSpelled h hu.fit) (h.imp fun _ _ hav => ⟨hav.name, hav.value_eq⟩)
    hu hroutine

end MediaScraper.Url
