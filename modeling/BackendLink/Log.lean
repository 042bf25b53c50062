/-!
# Log lines

What the program reports while it works. A line has a level and a target, the name of the part that
wrote it; a filter decides by both which lines are shown.
-/

namespace BackendLink.Log

inductive Level
  | error
  | warn
  | info
  | debug
  | trace
  deriving DecidableEq, Repr

/-- How much is let through below this level: an error is the least talkative. -/
def Level.rank : Level → Nat
  | error => 1
  | warn => 2
  | info => 3
  | debug => 4
  | trace => 5

structure Line where
  level : Level
  target : String
  text : String
  deriving DecidableEq, Repr

/-- One rule of a filter: lines whose target starts with `target` are shown up to `rank`. -/
structure Rule where
  target : String
  rank : Nat
  deriving DecidableEq, Repr

/-- The rules in the order they were given; a later rule for the same target replaces an earlier. -/
abbrev Filter := List Rule

namespace Filter

/-- The rule that decides on a target: of those that match, the one with the longest target. -/
def ruleFor (filter : Filter) (target : String) : Option Rule :=
  filter.foldl (fun best rule =>
    if rule.target.toList.isPrefixOf target.toList then
      match best with
      | none => some rule
      | some other => if other.target.length ≤ rule.target.length then some rule else best
    else best) none

/-- A line that no rule matches is not shown. -/
def shows (filter : Filter) (line : Line) : Bool :=
  match filter.ruleFor line.target with
  | none => false
  | some rule => line.level.rank ≤ rule.rank

/-- The rank that a level's name or number stands for; letters of either case. -/
def rank? (name : String) : Option Nat :=
  match String.ofList (name.toList.map Char.toLower) with
  | "off" | "0" => some 0
  | "error" | "1" => some 1
  | "warn" | "2" => some 2
  | "info" | "3" => some 3
  | "debug" | "4" => some 4
  | "trace" | "5" => some 5
  | _ => none

/-- A level for everything, `target=level`, or a target alone, which shows all of it. -/
def rule? (text : String) : Option Rule :=
  match rank? text with
  | some rank => some ⟨"", rank⟩
  | none =>
    match text.toList.span (· != '=') with
    | (target, '=' :: level) => (rank? (String.ofList level)).map (⟨String.ofList target, ·⟩)
    | (target, _) => if target.isEmpty then none else some ⟨String.ofList target, 5⟩

/-- What is shown unless asked otherwise. -/
def standard : Filter := [⟨"", 3⟩]

/-- The cuts of a text at each comma. -/
def parts : List Char → List (List Char)
  | [] => [[]]
  | ',' :: rest => [] :: parts rest
  | c :: rest =>
    match parts rest with
    | [] => [[c]]
    | first :: others => (c :: first) :: others

/-- The filter that a comma-separated list describes; empty parts do not count. A list of nothing
lets errors through; a list with a part that is no rule is dropped for the standard filter. -/
def ofString (text : String) : Filter :=
  match (parts text.toList).filter fun part => !part.isEmpty with
  | [] => [⟨"", 1⟩]
  | named => (named.mapM fun part => rule? (String.ofList part)).getD standard

end Filter
end BackendLink.Log
