/-!
# Delimited lists

A text is cut at every occurrence of a delimiter, so it has one piece more than it has delimiters
(`pieces`); names come from the pieces that are not empty (`delimitedNames`). A text may also be cut once,
behind the first occurrence of a word (`splitBehind?`).
-/
namespace TableGateway

/-- The pieces of a text between the delimiters, empty ones included. -/
def pieces (delimiter : Char) : List Char → List (List Char)
  | [] => [[]]
  | c :: rest =>
    if c = delimiter then [] :: pieces delimiter rest
    else
      match pieces delimiter rest with
      | [] => [[c]]
      | piece :: more => (c :: piece) :: more

/-- The pieces of a text between the delimiters, as texts. -/
def splitText (delimiter : Char) (s : String) : List String :=
  (pieces delimiter s.toList).map String.ofList

/-- A text through the first occurrence of a word, and the text behind it. -/
def splitBehind? (word : List Char) : List Char → Option (List Char × List Char)
  | [] => none
  | c :: rest =>
    if word.isPrefixOf (c :: rest) then some (word, (c :: rest).drop word.length)
    else (splitBehind? word rest).map fun split => (c :: split.1, split.2)

/-- The delimiter of the lists in a query. -/
def listDelimiter : Char := '|'

/-- The names of a delimited list; nothing stands for no name. -/
def delimitedNames (s : String) : List String :=
  (splitText listDelimiter s).filter (· ≠ "")

theorem pieces_ne_nil (delimiter : Char) (text : List Char) : pieces delimiter text ≠ [] := by
  cases text with
  | nil => simp [pieces]
  | cons c rest =>
    unfold pieces
    split
    · simp
    · split <;> simp

/-- The pieces, joined by the delimiter, are the text. -/
theorem intercalate_pieces (delimiter : Char) (text : List Char) :
    [delimiter].intercalate (pieces delimiter text) = text := by
  induction text with
  | nil => simp [pieces]
  | cons c rest ih =>
    have some_piece := pieces_ne_nil delimiter rest
    unfold pieces
    split
    · rename_i same
      cases pieces_rest : pieces delimiter rest with
      | nil => exact absurd pieces_rest some_piece
      | cons piece more =>
        rw [pieces_rest] at ih
        simp [List.intercalate_cons_cons, ih, same]
    · cases pieces_rest : pieces delimiter rest with
      | nil => exact absurd pieces_rest some_piece
      | cons piece more =>
        rw [pieces_rest] at ih
        cases more with
        | nil => simpa using ih
        | cons next more =>
          simp only [List.intercalate_cons_cons] at ih ⊢
          simp [ih]

end TableGateway
