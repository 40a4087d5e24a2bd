/-!
# Characters of a text

What is said of all characters of a text is decided character by character, so that facts about the
words of a format are decided by running through them.
-/

namespace MediaScraper.Text

instance decidableForallMem (s : List Char) (p : Char → Prop) [DecidablePred p] :
    Decidable (∀ c ∈ s, p c) :=
  List.decidableBAll p s

theorem not_mem_of_isDigit {s : List Char} (h : ∀ c ∈ s, c.isDigit = true) {d : Char}
    (hd : d.isDigit = false) : d ∉ s := fun hmem => by
  rw [h d hmem] at hd
  cases hd

end MediaScraper.Text
