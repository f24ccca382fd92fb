import SitePlan.Cabinet.Group

/-!
# Choosing cabinets

Filters say which cabinets get a subnet of their own in a network.
-/

namespace SitePlan.Cabinet

/-- A choice of cabinets, each given with its group. -/
abbrev Filter := Group → Detail → Bool

namespace Filter

/-- The cabinets of groups declared with exactly this kind. -/
def ofKind (kind : String) : Filter := fun g _ => g.kind = kind

/-- The cabinets of a class. -/
def ofClass (c : Hardware.Class) : Filter := fun g _ => g.hardwareClass? = some c

/-- The EX2500 cabinets that have a chassis with air cooling. -/
def ex2500AirCooled : Filter := fun _ d => d.model = some "EX2500" && 0 < d.airCooledChassis

/-- The cabinets that either filter accepts. -/
def or (a b : Filter) : Filter := fun g d => a g d || b g d

/-- The cabinets that both filters accept. -/
def and (a b : Filter) : Filter := fun g d => a g d && b g d

end Filter

/-- The cabinets that a filter accepts, in the order of their declaration. -/
def select (accepts : Filter) (groups : List Group) : List Detail :=
  groups.flatMap fun g => g.details.filter (accepts g)

end SitePlan.Cabinet
