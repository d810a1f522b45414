import TableGateway.Link.Change
import TableGateway.Rows.Fetch

/-!
# Rows over links

The rows that a row is linked to are fetched; its links are changed in one transaction, step by step, so that
a failed step leaves all links as they were.
-/
namespace TableGateway

/-- The link of a relation among the published tables. -/
def Call.link (relation : Relation) : Call Link := do
  match Link.resolve (← Call.tables) relation with
  | .ok link => return link
  | .error cause => .fail (.link cause)

namespace Link

/-- The rows that a row is linked to. -/
def fetch (link : Link) (id : String) : Call (List Json) :=
  (link.relatedRows (.text id)).fetch

/-- Runs the statements of steps in order. -/
def runSteps (link : Link) : List LinkStep → Call Unit
  | [] => .done ()
  | step :: rest => do
    let _ ← Call.execute (link.stepText step) (step.parameters.map .parameter)
    runSteps link rest

/-- Changes the links of a row, all or nothing. -/
def change (link : Link) (id : String) (change : LinkChange) : Call Unit :=
  .transaction (link.runSteps (link.plan (.text id) change))

end Link
end TableGateway
