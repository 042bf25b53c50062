import BackendLink.Text.Quoted

/-!
# Names given by the system

Paths and environment variables are sequences of bytes that are usually, but not always, text.
-/

namespace BackendLink

/-- A path or a variable's value: characters, and bytes that are part of none. -/
structure OsText where
  pieces : List Utf8.Piece
  deriving DecidableEq, Repr

namespace OsText

def ofString (s : String) : OsText := ⟨s.toList.map .char⟩

def ofBytes (bs : List UInt8) : OsText := ⟨Utf8.decode bs⟩

def bytes (t : OsText) : List UInt8 := t.pieces.flatMap Utf8.Piece.bytes

/-- The text, when the name is one. -/
def text? (t : OsText) : Option String := (Utf8.chars? t.pieces).map String.ofList

/-- For display: what is not text is shown by replacement characters. -/
def shown (t : OsText) : String := String.ofList (t.pieces.map Utf8.Piece.shown)

/-- For error texts that quote the name. -/
def quoted (t : OsText) : String :=
  String.ofList (['"'] ++ t.pieces.flatMap Text.quotedPiece ++ ['"'])

@[simp] theorem text?_ofString (s : String) : (ofString s).text? = some s := by
  simp [ofString, text?, Utf8.chars?_map_char]

end OsText
end BackendLink
