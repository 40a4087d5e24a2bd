/-!
# Escaping

The three characters that open markup are written as references: `&` as `&amp;`, `<` as `&lt;` and
`>` as `&gt;`. The five names that every kind of markup knows are `predefined?`.
-/

namespace MediaScraper.Entity

/-- The characters of the names `lt`, `gt`, `amp`, `quot` and `apos`. -/
def predefined? : List Char → Option Char
  | ['l', 't'] => some '<'
  | ['g', 't'] => some '>'
  | ['a', 'm', 'p'] => some '&'
  | ['q', 'u', 'o', 't'] => some '"'
  | ['a', 'p', 'o', 's'] => some '\''
  | _ => none

/-- How a character is written in a text. -/
def escapeChar : Char → List Char
  | '&' => ['&', 'a', 'm', 'p', ';']
  | '<' => ['&', 'l', 't', ';']
  | '>' => ['&', 'g', 't', ';']
  | c => [c]

/-- Write a text so that it holds no markup. -/
def escape (s : List Char) : List Char := s.flatMap escapeChar

def escapeText (s : String) : String := .ofList (escape s.toList)

end MediaScraper.Entity
