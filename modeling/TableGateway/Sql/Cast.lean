import TableGateway.Sql.Segment
import TableGateway.Number.Decimal

/-!
# Casts of references

Values travel as text, so a reference `$n` to one is cast to the type that is known for it. A reference is a
segment of its own; what literals, identifiers, comments and dollar bodies hold is left alone.
-/
namespace TableGateway.Sql

/-- The type known for the reference with the given digits; the first one is number 1. -/
def typeOf? (types : List (Option String)) (digits : List Char) : Option String :=
  match digitsNumber digits with
  | 0 => none
  | n + 1 => types[n]?.join

/-- The text of a segment once its reference is cast. -/
def Segment.cast (types : List (Option String)) : Segment → List Char
  | .reference digits =>
    match typeOf? types digits with
    | some type => '(' :: '$' :: digits ++ "::text::".toList ++ type.toList ++ [')']
    | none => '$' :: digits
  | segment => segment.text

/-- The text with every reference cast whose type is known. -/
def castReferences (sql : String) (types : List (Option String)) : String :=
  String.ofList ((segments [] sql.toList).flatMap (Segment.cast types))

end TableGateway.Sql
