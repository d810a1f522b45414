import TableGateway.Text.Blank
import TableGateway.Text.Integer
import TableGateway.Dict

/-!
# Pages

A page is a number of rows to give and a number of rows to pass over. A limit that is no positive integer
counts as the default, and none exceeds the greatest limit; an offset that is no natural number counts as
zero.
-/
namespace TableGateway

/-- The rows of a list that are wanted. -/
structure Page where
  limit : UInt32
  offset : UInt64
  deriving DecidableEq, Repr

namespace Page

/-- The limit where none is given. -/
def defaultLimit : UInt32 := 50

/-- The page where none is given. -/
def first : Page := ⟨defaultLimit, 0⟩

/-- The integer of a text with blanks around it. -/
def integer? (text : Option String) : Option Int :=
  text.bind fun s => readInt64? (trimmed s)

/-- The page of a limit and an offset as texts. -/
def ofTexts (limit offset : Option String) (greatest : UInt32) : Page where
  limit :=
    match integer? limit with
    | some n => if 1 ≤ n then UInt32.ofNat (min n.toNat greatest.toNat) else min defaultLimit greatest
    | none => min defaultLimit greatest
  offset :=
    match integer? offset with
    | some n => UInt64.ofNat n.toNat
    | none => 0

def ofQuery (query : Dict String) (greatest : UInt32) : Page :=
  ofTexts (query.get? "limit") (query.get? "offset") greatest

/-- The clause that cuts the page out. -/
def text (page : Page) : String :=
  "LIMIT " ++ page.limit.toNat.repr ++ " OFFSET " ++ page.offset.toNat.repr

end Page
end TableGateway
