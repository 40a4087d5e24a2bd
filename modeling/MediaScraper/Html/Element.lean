/-!
# Kinds of elements

What HTML knows of an element by its name: which elements stand apart from formatting, which ones
close by themselves, and which ones hide what is open around them.
-/

namespace MediaScraper.Html

/-- The language that an element belongs to. -/
inductive Namespace where
  | html
  | mathMl
  | svg
deriving DecidableEq

/-- An open element: its number among the nodes, and what it is. -/
structure OpenElement where
  node : Nat
  space : Namespace
  name : String
deriving DecidableEq

namespace OpenElement

/-- Is this an element of HTML with one of these names? -/
def isOneOf (e : OpenElement) (names : List String) : Bool :=
  e.space = .html && names.contains e.name

/-- Is this the element of HTML with this name? -/
def isNamed (e : OpenElement) (name : String) : Bool := e.space = .html && e.name == name

end OpenElement

/-! ## Families of names -/

/-- Elements that formatting does not run through. -/
def special : List String :=
  ["address", "applet", "area", "article", "aside", "base", "basefont", "bgsound", "blockquote",
    "body", "br", "button", "caption", "center", "col", "colgroup", "dd", "details", "dir", "div",
    "dl", "dt", "embed", "fieldset", "figcaption", "figure", "footer", "form", "frame", "frameset",
    "h1", "h2", "h3", "h4", "h5", "h6", "head", "header", "hgroup", "hr", "html", "iframe", "img",
    "input", "isindex", "li", "link", "listing", "main", "marquee", "menu", "meta", "nav",
    "noembed", "noframes", "noscript", "object", "ol", "p", "param", "plaintext", "pre", "script",
    "section", "select", "source", "style", "summary", "table", "tbody", "td", "template",
    "textarea", "tfoot", "th", "thead", "title", "tr", "track", "ul", "wbr", "xmp"]

/-- Elements that close the paragraph before them. -/
def blocks : List String :=
  ["address", "article", "aside", "blockquote", "center", "details", "dialog", "dir", "div", "dl",
    "fieldset", "figcaption", "figure", "footer", "header", "hgroup", "main", "menu", "nav", "ol",
    "p", "search", "section", "summary", "ul"]

/-- Elements whose end tag closes all that is open within them. -/
def closable : List String :=
  ["address", "article", "aside", "blockquote", "button", "center", "details", "dialog", "dir",
    "div", "dl", "fieldset", "figcaption", "figure", "footer", "header", "hgroup", "listing",
    "main", "menu", "nav", "ol", "pre", "search", "section", "summary", "ul"]

def headings : List String := ["h1", "h2", "h3", "h4", "h5", "h6"]

/-- Elements that format the text up to their end tag, whatever begins in between. -/
def formatters : List String :=
  ["b", "big", "code", "em", "font", "i", "s", "small", "strike", "strong", "tt", "u"]

/-- Elements that shut formatting off. -/
def enclosing : List String := ["applet", "marquee", "object"]

/-- Elements without content. -/
def voids : List String := ["area", "br", "embed", "img", "keygen", "wbr", "input"]

/-- Elements without content that leave formatting alone. -/
def bareVoids : List String := ["param", "source", "track"]

/-- Elements of the head that may stand anywhere. -/
def metadata : List String :=
  ["base", "basefont", "bgsound", "link", "meta", "noframes", "script", "style", "template",
    "title"]

/-- Elements of the head without content. -/
def metadataVoids : List String := ["base", "basefont", "bgsound", "link", "meta"]

/-- Elements that the next tag may close without an end tag. -/
def implied : List String := ["dd", "dt", "li", "optgroup", "option", "p", "rb", "rp", "rt", "rtc"]

/-- Elements that the end of a template closes without an end tag. -/
def impliedInTemplate : List String :=
  implied ++ ["caption", "colgroup", "tbody", "td", "tfoot", "th", "thead", "tr"]

/-- Parts of a table that hold no text of their own. -/
def tableFrame : List String := ["table", "tbody", "tfoot", "thead", "tr"]

/-- Parts of a table that have no place outside of it. -/
def tableParts : List String :=
  ["caption", "col", "colgroup", "tbody", "td", "tfoot", "th", "thead", "tr"]

def tableSections : List String := ["tbody", "tfoot", "thead"]

def cells : List String := ["td", "th"]

/-! ## Scopes -/

/-- An element of MathML whose text is HTML. -/
def OpenElement.holdsText (e : OpenElement) : Bool :=
  e.space = .mathMl && ["mi", "mo", "mn", "ms", "mtext"].contains e.name

/-- An element of SVG whose content is HTML. -/
def OpenElement.holdsHtml (e : OpenElement) : Bool :=
  e.space = .svg && ["foreignObject", "desc", "title"].contains e.name

/-- Elements that hide what is open around them. -/
def bounds (e : OpenElement) : Bool :=
  e.isOneOf ["applet", "caption", "html", "table", "td", "th", "marquee", "object", "template"] ||
    e.holdsText || e.holdsHtml

def boundsList (e : OpenElement) : Bool := bounds e || e.isOneOf ["ol", "ul"]

def boundsButton (e : OpenElement) : Bool := bounds e || e.isNamed "button"

def boundsTable (e : OpenElement) : Bool := e.isOneOf ["html", "table", "template"]

def boundsSelect (e : OpenElement) : Bool := !e.isOneOf ["optgroup", "option"]

/-- Does the stack of open elements, innermost first, hold a wanted element before a
bound hides it? -/
def inScope (bound wanted : OpenElement → Bool) : List OpenElement → Bool
  | [] => false
  | e :: es => wanted e || (!bound e && inScope bound wanted es)

/-! ## Foreign elements -/

/-- Start tags that end foreign content. -/
def breakouts : List String :=
  ["b", "big", "blockquote", "body", "br", "center", "code", "dd", "div", "dl", "dt", "em", "embed",
    "h1", "h2", "h3", "h4", "h5", "h6", "head", "hr", "i", "img", "li", "listing", "menu", "meta",
    "nobr", "ol", "p", "pre", "ruby", "s", "small", "span", "strong", "strike", "sub", "sup",
    "table", "tt", "u", "ul", "var"]

/-- The names of SVG that have capital letters. -/
def svgNames : List String :=
  ["altGlyph", "altGlyphDef", "altGlyphItem", "animateColor", "animateMotion", "animateTransform",
    "clipPath", "feBlend", "feColorMatrix", "feComponentTransfer", "feComposite",
    "feConvolveMatrix", "feDiffuseLighting", "feDisplacementMap", "feDistantLight", "feDropShadow",
    "feFlood", "feFuncA", "feFuncB", "feFuncG", "feFuncR", "feGaussianBlur", "feImage", "feMerge",
    "feMergeNode", "feMorphology", "feOffset", "fePointLight", "feSpecularLighting", "feSpotLight",
    "feTile", "feTurbulence", "foreignObject", "glyphRef", "linearGradient", "radialGradient",
    "textPath"]

/-- The name of an element in the spelling of its language. -/
def Namespace.spell (space : Namespace) (name : String) : String :=
  match space with
  | .svg => (svgNames.find? fun s => s.toLower == name).getD name
  | _ => name

end MediaScraper.Html
