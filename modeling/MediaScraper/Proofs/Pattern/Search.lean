import MediaScraper.Pattern.Basic

/-!
# Searching with a list of what was tried

A search only asks whether a pair of an instruction and a place was tried before. So it can keep the
pairs in a list, which, unlike a hash table, can be evaluated in a proof: one for the first match
(`firstMatch?_eq`), and one for each of all matches (`findAll_eq`).
-/

namespace MediaScraper.Pattern

namespace Program

variable (p : Program)

/-- Try jobs until one is accepted; the pairs tried so far are listed. -/
def tryJobsListed : Nat → List Job → List Nat → Option Saves × List Nat
  | 0, _, tried => (none, tried)
  | _ + 1, [], tried => (none, tried)
  | fuel + 1, j :: jobs, tried =>
    if tried.contains (p.key j) then tryJobsListed fuel jobs tried
    else
      match p.code[j.counter]? with
      | some .accept => (some j.saves, tried)
      | some i => tryJobsListed fuel (successors i j ++ jobs) (p.key j :: tried)
      | none => tryJobsListed fuel jobs (p.key j :: tried)

/-- Search from a place on; the pairs tried so far are listed. -/
def searchFromListed (fuel : Nat) (tried : List Nat) (before : Option Char) (offset : Nat) :
    List Char → Option Saves
  | [] => (p.tryJobsListed fuel [⟨p.entry, ⟨offset, before, []⟩, []⟩] tried).1
  | c :: cs =>
    match p.tryJobsListed fuel [⟨p.entry, ⟨offset, before, c :: cs⟩, []⟩] tried with
    | (some saves, _) => some saves
    | (none, tried) => searchFromListed fuel tried (some c) (offset + c.utf8Size) cs

/-- The table and the list hold the same pairs. -/
def Lists (tried : Tried) (listed : List Nat) : Prop :=
  ∀ k, tried.contains k = listed.contains k

variable {p}

theorem Lists.insert {tried : Tried} {listed : List Nat} (h : Lists tried listed) (k : Nat) :
    Lists (tried.insert k) (k :: listed) := by
  intro l
  rw [Std.HashSet.contains_insert, List.contains_cons, h l, Bool.beq_comm]

theorem tryJobs_listed (fuel : Nat) (jobs : List Job) {tried : Tried} {listed : List Nat}
    (h : Lists tried listed) :
    (p.tryJobs fuel jobs tried).1 = (p.tryJobsListed fuel jobs listed).1 ∧
      Lists (p.tryJobs fuel jobs tried).2 (p.tryJobsListed fuel jobs listed).2 := by
  induction fuel generalizing jobs tried listed with
  | zero => exact ⟨rfl, h⟩
  | succ fuel ih =>
    cases jobs with
    | nil => exact ⟨rfl, h⟩
    | cons j jobs =>
      rw [tryJobs, tryJobsListed, h (p.key j)]
      split
      · exact ih jobs h
      · cases p.code[j.counter]? with
        | none => exact ih jobs (h.insert _)
        | some i =>
          cases i with
          | accept => exact ⟨rfl, h⟩
          | _ => exact ih _ (h.insert _)

theorem searchFrom_listed (fuel : Nat) {tried : Tried} {listed : List Nat} (h : Lists tried listed)
    (before : Option Char) (offset : Nat) (s : List Char) :
    p.searchFrom fuel tried before offset s = p.searchFromListed fuel listed before offset s := by
  induction s generalizing tried listed before offset with
  | nil => exact (tryJobs_listed fuel _ h).1
  | cons c s ih =>
    obtain ⟨hsaves, htried⟩ := tryJobs_listed (p := p) fuel
      [⟨p.entry, ⟨offset, before, c :: s⟩, []⟩] h
    rw [searchFrom, searchFromListed]
    revert hsaves htried
    generalize p.tryJobs fuel _ tried = r
    generalize p.tryJobsListed fuel _ listed = r'
    obtain ⟨saves, tried'⟩ := r
    obtain ⟨saves', listed'⟩ := r'
    rintro rfl htried
    cases saves with
    | some saves => rfl
    | none => exact ih htried _ _

variable (p)

/-- The first match at or behind a place, found with a list. -/
def findListed? (groups size : Nat) (place : Place) : Option Match :=
  (p.searchFromListed (p.fuel size) [] place.before place.offset place.rest).bind
    (Match.ofSaves? groups)

theorem find?_listed (groups size : Nat) : p.find? groups size = p.findListed? groups size := by
  funext place
  have hempty : Lists ∅ [] := fun k => Std.HashSet.contains_empty
  rw [find?, findListed?, searchFrom_listed _ hempty]

/-- The matches from a place on that a finder finds, at most so many. -/
def findAllBy (find : Place → Option Match) : Nat → Place → Option Nat → List Match
  | 0, _, _ => []
  | n + 1, place, lastEnd =>
    let next? := (find place).bind fun m =>
      if m.whole.isEmpty ∧ lastEnd = some m.whole.stop.offset then place.advance?.bind find
      else some m
    match next? with
    | none => []
    | some m => m :: findAllBy find n m.whole.stop (some m.whole.stop.offset)

theorem findNext?_eq (groups size : Nat) (place : Place) (lastEnd : Option Nat) :
    p.findNext? groups size place lastEnd = (p.find? groups size place).bind fun m =>
      if m.whole.isEmpty ∧ lastEnd = some m.whole.stop.offset then
        place.advance?.bind (p.find? groups size)
      else some m := by
  rw [findNext?]
  cases p.find? groups size place <;> rfl

theorem findAllFrom_eq (groups size n : Nat) (place : Place) (lastEnd : Option Nat) :
    p.findAllFrom groups size n place lastEnd =
      findAllBy (p.find? groups size) n place lastEnd := by
  induction n generalizing place lastEnd with
  | zero => rfl
  | succ n ih =>
    rw [findAllFrom, findAllBy, findNext?_eq]
    generalize (p.find? groups size place).bind _ = next?
    cases next? with
    | none => rfl
    | some m => exact congrArg (m :: ·) (ih _ _)

end Program

theorem firstMatch?_eq (p : Pattern) (text : String) :
    p.firstMatch? text =
      (p.program.searchFromListed (p.program.fuel text.utf8ByteSize) [] none 0 text.toList).bind
        (Match.ofSaves? p.groups) := by
  rw [firstMatch?, Program.find?_listed]
  rfl

theorem findAll_eq (p : Pattern) (text : String) :
    p.findAll text = Program.findAllBy (p.program.findListed? p.groups text.utf8ByteSize)
      (text.utf8ByteSize + 2) (.start text.toList) none := by
  rw [findAll, Program.findAllFrom_eq, Program.find?_listed]

end MediaScraper.Pattern
