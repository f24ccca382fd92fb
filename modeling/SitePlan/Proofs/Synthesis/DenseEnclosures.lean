import SitePlan.Proofs.Hardware.Filing
import SitePlan.Proofs.Synthesis.Enclosures
import SitePlan.Proofs.Synthesis.NodeNumbers
import SitePlan.Proofs.Synthesis.RowPieces

/-!
# Nodes in enclosures

Up to four nodes share an enclosure. A node whose row names one lies at the height of the last row
of this name, wherever that row stands, and behind the controller that its number or the half it
is in selects. If the enclosure's own row is that of a node in the same rack, the controller of the
enclosure is recorded beside it.
-/

namespace SitePlan.Synthesis

open Cabling Hardware Outcome Xname

/-- The record is among those of the row. -/
def Yields (inputs : Inputs) (nids : Nids) (rows : List Row) (row : Row) (r : Record) : Prop :=
  ∃ pieces piece, rackPieces inputs nids rows = .ok pieces ∧ (row, piece) ∈ rows.zip pieces ∧
    r ∈ piece

section

variable {ctx : RackContext} {row : Row} {nid : UInt64} {piece : List Record}

end

section

variable {inputs : Inputs} {nids : Nids} {rows : List Row} {filed : Inventory}

end

end SitePlan.Synthesis
