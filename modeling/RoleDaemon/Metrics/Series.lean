/-!
# Labelled Series

A family of measurements keeps one value for each pair of a service and a method.  The values are
filed under the text of the pair run together, and a value keeps the labels under which it was first
filed: two pairs with the same run-together text share one value.

Main definitions:
- `CallLabels`: a service and a method
- `Series`: the values of a family
- `Series.update`: changes the value of a pair, and files it where there is none
-/

namespace RoleDaemon.Metrics

/-- The labels of a call: the service that it went to, and the method. -/
structure CallLabels where
  service : String
  method : String
  deriving DecidableEq, Repr, Inhabited

namespace CallLabels

/-- The text under which a pair is filed. -/
def key (labels : CallLabels) : String :=
  labels.service ++ labels.method

/-- The order of the pairs: by service, and by method within a service. -/
def before (a b : CallLabels) : Bool :=
  decide (a.service < b.service) || (a.service == b.service && decide (a.method < b.method))

end CallLabels

/-- The values of a family, in the order of their first use. -/
structure Series (α : Type) where
  cells : List (CallLabels × α)
  deriving Repr

namespace Series

variable {α : Type}

/-- The series without values. -/
def empty : Series α := ⟨[]⟩

/-- The value filed for a pair. -/
def get? (series : Series α) (labels : CallLabels) : Option α :=
  (series.cells.find? fun cell => cell.1.key = labels.key).map (·.2)

/-- The cells with the value of a pair changed; the start value is filed first where there is none. -/
def updateCells (start : α) (change : α → α) (labels : CallLabels) :
    List (CallLabels × α) → List (CallLabels × α)
  | [] => [(labels, change start)]
  | cell :: cells =>
    if cell.1.key = labels.key then (cell.1, change cell.2) :: cells
    else cell :: updateCells start change labels cells

/-- The series with the value of a pair changed. -/
def update (series : Series α) (start : α) (change : α → α) (labels : CallLabels) : Series α :=
  ⟨updateCells start change labels series.cells⟩

/-- The series with a value for the pair, which is the start value where there was none. -/
def touch (series : Series α) (start : α) (labels : CallLabels) : Series α :=
  series.update start id labels

end Series

end RoleDaemon.Metrics
