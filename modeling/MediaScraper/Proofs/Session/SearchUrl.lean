import MediaScraper.Proofs.Interpreter.Writing
import MediaScraper.Proofs.Session.Visit
import MediaScraper.Proofs.Url.Finding

/-!
# Addresses of search pages

The address of a search page is what a routine says, read as a url (`createSearchUrl_eq_ok_iff`). So
it is trimmed, but it is empty where the routine says an element of blanks only
(`createSearchUrl_address`), as a routine may for a blank title (`createSearchUrl_blank`).
-/

namespace MediaScraper.Session

variable {s : Session} {title : String} {year : Option String} {requests after : List Request}
  {u : Url}

theorem createSearchUrl_eq_ok_iff :
    s.createSearchUrl title year requests = some (.ok u, after) ↔
      after = requests ∧ ∃ output,
        s.interpreter.result? searchUrlRoutine ["", title, year.getD ""] = some (.ok output) ∧
          Url.parse output = .ok u := by
  constructor
  · intro h
    obtain ⟨output, between, hask, houtput⟩ := exists_of_bind h
    obtain ⟨hresult, rfl⟩ := result?_of_ask hask
    rw [ofExcept_apply] at houtput
    obtain ⟨hparse, rfl⟩ := Prod.mk.inj (Option.some.inj houtput)
    exact ⟨rfl, output, hresult, hparse⟩
  · rintro ⟨rfl, output, hresult, hparse⟩
    rw [createSearchUrl, bind_of_ok (ask_eq hresult _), ofExcept_apply, hparse]

/-- **An address is trimmed, and empty only where an element of blanks is read**, whether a url is
read from any text or made for a search. -/
theorem createSearchUrl_address (text : String) (s : Session) (title : String)
    (year : Option String) (requests : List Request) :
    (∀ u, Url.parse text = .ok u →
      trimBlanks u.address = u.address ∧ (u.address = "" ↔ Url.HoldsBlank text)) ∧
    ∀ u after, s.createSearchUrl title year requests = some (.ok u, after) →
      after = requests ∧ trimBlanks u.address = u.address ∧ ∃ output,
        s.interpreter.result? searchUrlRoutine ["", title, year.getD ""] = some (.ok output) ∧
          Url.parse output = .ok u ∧ (u.address = "" ↔ Url.HoldsBlank output) := by
  constructor
  · exact fun u h => ⟨Url.trimBlanks_address h, Url.address_eq_empty_iff h⟩
  · intro u after h
    obtain ⟨hafter, output, hresult, hparse⟩ := createSearchUrl_eq_ok_iff.1 h
    exact ⟨hafter, Url.trimBlanks_address hparse, output, hresult, hparse,
      Url.address_eq_empty_iff hparse⟩

/-- A session that puts the title into a url element. -/
def enclosingSession : Session :=
  ⟨⟨⟨"sample", [⟨searchUrlRoutine, true, 3, false,
    [.mk "$$1" "<url>\\1</url>" 3 false none [] none]⟩]⟩, .empty, .none⟩, fun _ => .error "none"⟩

/-- A title that is an address becomes the address of the search page. -/
theorem createSearchUrl_address_enclosing :
    Url.parse "<url> http://a </url>" = .ok (.ofAddress "http://a") ∧
      ¬ Url.HoldsBlank "<url> http://a </url>" ∧
      enclosingSession.createSearchUrl "http://a" none [] = some (.ok (.ofAddress "http://a"), []) ∧
      ∃ output, enclosingSession.interpreter.result? searchUrlRoutine ["", "http://a", ""] =
        some (.ok output) ∧ ¬ Url.HoldsBlank output := by
  have hparse : Url.parse "<url> http://a </url>" = .ok (.ofAddress "http://a") := by
    decide
  have hmade : enclosingSession.createSearchUrl "http://a" none [] =
      some (.ok (.ofAddress "http://a"), []) := by
    decide
  have hne : ¬ (Url.ofAddress "http://a").address = "" := by decide
  obtain ⟨hread, hsearch⟩ :=
    createSearchUrl_address "<url> http://a </url>" enclosingSession "http://a" none []
  obtain ⟨-, hblank⟩ := hread _ hparse
  obtain ⟨-, -, output, hresult, -, houtput⟩ := hsearch _ _ hmade
  exact ⟨hparse, mt hblank.2 hne, hmade, output, hresult, mt houtput.2 hne⟩

/-- **A blank title gives an empty address**, which is then asked for, although an element of one tag
gives no url. -/
theorem createSearchUrl_blank :
    Url.parse "<url></url>" = .ok (.ofAddress "") ∧
      Url.parse "<url/>" = .error (.unreadable .noAddress) ∧
      enclosingSession.createSearchUrl " " none [] = some (.ok (.ofAddress ""), []) ∧
      (enclosingSession.createSearchUrl " " none >>= enclosingSession.search) [] =
        some (.error (.fetch "" "none"), [⟨"sample", ""⟩]) := by
  decide

end MediaScraper.Session
