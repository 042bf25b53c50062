import BackendLink.Address.Ip

/-!
# Names of servers

The name that a certificate is checked against: a host name or an address. What reads as both is a
host name.
-/

namespace BackendLink

inductive ServerName
  /-- A host name as it was written. -/
  | host (name : String)
  | address (ip : Ip)
  deriving DecidableEq, Repr

namespace ServerName

def isLetter (c : Char) : Bool := c.isAlpha || c == '_'

/-- From 1 to 63 letters, digits and hyphens, with no hyphen at either end. -/
def isLabel (label : List Char) : Bool :=
  !label.isEmpty && label.length ≤ 63 && label.all (fun c => isLetter c || c.isDigit || c == '-') &&
    label.head? != some '-' && label.getLast? != some '-'

/-- The parts of a name between its points. -/
def labels : List Char → List (List Char)
  | [] => [[]]
  | '.' :: rest => [] :: labels rest
  | c :: rest =>
    match labels rest with
    | [] => [[c]]
    | label :: others => (c :: label) :: others

/-- The parts of a name; a point at its end is not followed by one. -/
def hostLabels (name : List Char) : List (List Char) :=
  match (labels name).reverse with
  | [] :: rest => rest.reverse
  | all => all.reverse

/-- At most 253 characters of labels, the last of which is not a number. -/
def isHost (name : List Char) : Bool :=
  let parts := hostLabels name
  name.length ≤ 253 && parts.all isLabel &&
    parts.getLast?.any fun label => !label.all Char.isDigit

def ofString? (name : String) : Option ServerName :=
  if isHost name.toList then some (.host name) else (Ip.ofChars? name.toList).map .address

end ServerName
end BackendLink
