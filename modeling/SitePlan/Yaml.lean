/-!
# YAML values

The values that a YAML text of block and flow collections and plain and quoted scalars can
hold. Anchors, tags, block scalars and directives are not read. What a plain scalar means
depends on where it stands, so it is kept as it was written; where nothing is written,
there is the empty plain scalar.
-/

namespace SitePlan

/-- A YAML value. -/
inductive Yaml
  /-- A scalar without quotes. -/
  | plain (written : String)
  /-- A scalar between quotes, by its value. -/
  | quoted (text : String)
  | sequence (items : List Yaml)
  /-- Keys with values, in the order of the text; a key may occur more than once. -/
  | mapping (fields : List (Yaml × Yaml))
  deriving Inhabited

/-- What stands where nothing is written. -/
def Yaml.nothing : Yaml := .plain ""

end SitePlan
