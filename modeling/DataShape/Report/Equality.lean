import DataShape.Report.Basic

/-!
# Equality of reports

Nodes are equal when they have the same messages in the same order, equally many branches, and when
every branch of the one is found equal in the other, whatever the order.  Reports are equal when
they name the topmost node and mark positions alike, and both have no node or equal topmost nodes.

* `Report.Node.equal`, `Report.equal` — the comparison.
-/

namespace DataShape

namespace Report

namespace Node

mutual

/-- Whether two nodes are equal. -/
def equal : Node → Node → Bool
  | ⟨messages, children⟩, ⟨others, branches⟩ =>
    messages == others && (children.length == branches.length && foundEqual children branches)

/-- Whether every branch is equal to the one with its name in the other list. -/
def foundEqual : List (String × Node) → List (String × Node) → Bool
  | [], _ => true
  | (name, child) :: rest, branches =>
    (match Entries.lookup? name branches with
      | some branch => equal child branch
      | none => false) && foundEqual rest branches

end

end Node

/-- Whether two reports are equal. -/
def equal (r other : Report) : Bool :=
  r.rootKey == other.rootKey && r.indexMark == other.indexMark &&
    match r.top, other.top with
    | some node, some another => node.equal another
    | none, none => true
    | _, _ => false

end Report

end DataShape
