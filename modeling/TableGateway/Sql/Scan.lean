import TableGateway.Sql.Segment

/-!
# Scanning by positions

A scanner that knows a text by its positions stands at one of them and goes on behind the segment that starts there
(`segmentAt`). A position may lie behind the text, but nothing is read there: every character and every range is
read with a check, and so is a comment left only where one is open. A scanner that breaks such a rule stops with a
fault. `Scans` says what comes of a text when every turn ends without one.
-/
namespace TableGateway.Sql

/-- What a scanner must not do. -/
inductive ScanFault where
  /-- Reads a character or a range that the text does not have. -/
  | outOfRange
  /-- Compares runs of no character. -/
  | emptyRun
  /-- Leaves a comment where none is open. -/
  | noneOpen
  deriving DecidableEq, Repr

namespace Scan

/-! ## Reading -/

/-- The character at a position. -/
def charAt (text : List Char) (i : Nat) : Except ScanFault Char :=
  match text[i]? with
  | some c => .ok c
  | none => .error .outOfRange

/-- The characters from a position on, before another one. -/
def slice (text : List Char) (first last : Nat) : Except ScanFault (List Char) :=
  if first ≤ last ∧ last ≤ text.length then .ok ((text.take last).drop first) else .error .outOfRange

/-- The runs of a length, from every position that has so many characters. -/
def runs (length : Nat) (text : List Char) : Except ScanFault (List (List Char)) :=
  if length = 0 then .error .emptyRun
  else .ok ((List.range (text.length + 1 - length)).map fun p => (text.drop p).take length)

/-- The count of open comments once one is left. -/
def leave : (opened : Nat) → Except ScanFault Nat
  | 0 => .error .noneOpen
  | opened + 1 => .ok opened

/-- Holds when the position is right behind a character of a word. -/
def isBehindWord (text : List Char) (i : Nat) : Except ScanFault Bool :=
  if 0 < i then (charAt text (i - 1)).map isWordChar else .ok false

/-- Holds when the position is right behind an `e` or `E` that goes on with no word. A position without two
    characters before it has no word there. -/
def isBehindEscapeMark (text : List Char) (i : Nat) : Except ScanFault Bool :=
  if 0 < i then
    (charAt text (i - 1)).map fun c =>
      (c = 'e' || c = 'E') && !((if 2 ≤ i then text[i - 2]? else none).any isWordChar)
  else .ok false

/-! ## Ends of runs -/

/-- Where a loop over a quoted run ends, from a position within the run. A skipped character may be the one
    behind the last, so the end may be behind the text. -/
def quotedEnd (text : List Char) (mark : Char) (escapes : Bool) (i : Nat) : Except ScanFault Nat :=
  if i < text.length then do
    let c ← charAt text i
    if escapes && c = '\\' then quotedEnd text mark escapes (i + 2)
    else if c = mark then
      if text[i + 1]? = some mark then quotedEnd text mark escapes (i + 2) else .ok (i + 1)
    else quotedEnd text mark escapes (i + 1)
  else .ok i
termination_by text.length - i

/-- Where a loop over a block comment ends, from a position at which so many comments are open. -/
def commentEnd (text : List Char) (opened i : Nat) : Except ScanFault Nat :=
  if i < text.length then do
    let c ← charAt text i
    if c = '/' ∧ text[i + 1]? = some '*' then commentEnd text (opened + 1) (i + 2)
    else if c = '*' ∧ text[i + 1]? = some '/' then do
      let opened ← leave opened
      if opened = 0 then .ok (i + 2) else commentEnd text opened (i + 2)
    else commentEnd text opened (i + 1)
  else .ok i
termination_by text.length - i

/-- The characters from a position to the end of a loop, but none behind the text, and where they end. -/
def copied (text : List Char) (i last : Nat) : Except ScanFault (List Char × Nat) := do
  let last := min last text.length
  return (← slice text i last, last)

/-- The quoted run that opens at a position, and where it ends. -/
def quotedRun (text : List Char) (i : Nat) (mark : Char) (escapes : Bool) : Except ScanFault (List Char × Nat) := do
  copied text i (← quotedEnd text mark escapes (i + 1))

/-- The block comment that opens at a position, and where it ends. -/
def blockComment (text : List Char) (i : Nat) : Except ScanFault (List Char × Nat) := do
  copied text i (← commentEnd text 0 i)

/-- The first position from `i` on whose character passes the test, or the end of the text. -/
def positionFrom (text : List Char) (i : Nat) (test : Char → Bool) : Except ScanFault Nat := do
  let rest ← slice text i text.length
  return match rest.findIdx? test with
    | some p => i + p
    | none => text.length

/-- Where the dollar body ends that opens at a position, if one opens there. -/
def bodyEnd? (text : List Char) (i : Nat) : Except ScanFault (Option Nat) := do
  let rest ← slice text (i + 1) text.length
  match rest.findIdx? (· = '$') with
  | none => return none
  | some length =>
    if isTag (← slice text (i + 1) (i + 1 + length)) then
      let mark ← slice text i (i + length + 2)
      let start := i + mark.length
      let found ← runs mark.length (← slice text start text.length)
      return match found.findIdx? (· = mark) with
        | some p => some (start + p + mark.length)
        | none => some text.length
    else return none

/-! ## Turns -/

/-- The segment that starts at a position, and the position behind it. -/
def segmentAt (text : List Char) (i : Nat) : Except ScanFault (Segment × Nat) := do
  let c ← charAt text i
  if c = literalMark then
    let (part, last) ← quotedRun text i literalMark (← isBehindEscapeMark text i)
    return (.literal part, last)
  else if c = identifierMark then
    let (part, last) ← quotedRun text i identifierMark false
    return (.identifier part, last)
  else if c = '-' ∧ text[i + 1]? = some '-' then
    let last ← positionFrom text i (· = '\n')
    return (.lineComment (← slice text i last), last)
  else if c = '/' ∧ text[i + 1]? = some '*' then
    let (part, last) ← blockComment text i
    return (.blockComment part, last)
  else if c = '$' then
    let digitsEnd ← positionFrom text (i + 1) (!·.isDigit)
    let inWord ← isBehindWord text i
    if i + 1 < digitsEnd ∧ inWord = false then
      return (.reference (← slice text (i + 1) digitsEnd), digitsEnd)
    else
      match ← bodyEnd? text i with
      | some last =>
        if inWord then return (.other c, i + 1) else return (.dollarBody (← slice text i last), last)
      | none => return (.other c, i + 1)
  else return (.other c, i + 1)

/-- The segments that the turns from a position on give, the last of which ends with the text. There are none
    where a turn ends with a fault, or where one follows the other without end. -/
inductive Scans (text : List Char) : (i : Nat) → List Segment → Prop where
  | atEnd {i : Nat} (behind : text.length ≤ i) : Scans text i []
  | turn {i next : Nat} {seg : Segment} {segs : List Segment} (inside : i < text.length)
      (found : segmentAt text i = .ok (seg, next)) (later : Scans text next segs) : Scans text i (seg :: segs)

end Scan
end TableGateway.Sql
