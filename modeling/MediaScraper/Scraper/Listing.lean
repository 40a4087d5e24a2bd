import MediaScraper.Json.Layout
import MediaScraper.Scraper.Basic

/-!
# Listing a scraper

The routines of a scraper, with all that has been read of them, are listed as JSON.
-/

namespace MediaScraper

open Json

def Expression.layout (e : Expression) : Layout :=
  .object [("pattern", .text e.pattern), ("clear_on_no_match", .flag e.clearOnNoMatch),
    ("repeat", .flag e.repeats), ("no_clean_groups", .list (e.rawGroups.map .number))]

mutual

def Rule.layout : Rule → Layout
  | .mk input output target append condition children expression =>
    .object [("input_ref", .text input), ("output_template", .text output),
      ("dest_register", .number target), ("append_output", .flag append),
      ("conditional_key", .option .text condition), ("children", .list (Rule.layouts children)),
      ("expression", .option Expression.layout expression)]

def Rule.layouts : List Rule → List Layout
  | [] => []
  | rule :: rules => rule.layout :: Rule.layouts rules

end

def Routine.layout (r : Routine) : Layout :=
  .object [("name", .text r.name), ("clear_buffers_on_entry", .flag r.clearsOnEntry),
    ("dest_register", .number r.target), ("append_output", .flag r.append),
    ("nodes", .list (Rule.layouts r.rules))]

/-- The listing of a scraper. -/
def Scraper.listing (s : Scraper) : String :=
  Layout.object [("id", .text s.id),
    ("functions", .object (s.routines.map fun r => (r.name, r.layout)))] 0

end MediaScraper
