/-!
# Regions of space

A region is a box whose faces are parallel to the axes. The faces belong to it, and a point
with a coordinate that is not a number lies in no box.
-/

namespace Sortie

/-- A position in space, in metres. -/
structure Point where
  x : Float
  y : Float
  z : Float
  deriving Repr, Inhabited, BEq

/-- A closed box. -/
structure Region where
  xmin : Float
  xmax : Float
  ymin : Float
  ymax : Float
  zmin : Float
  zmax : Float
  deriving Repr, Inhabited, BEq

/-- The point lies in the box or on one of its faces. -/
def Region.contains (r : Region) (p : Point) : Bool :=
  r.xmin ≤ p.x && p.x ≤ r.xmax && r.ymin ≤ p.y && p.y ≤ r.ymax && r.zmin ≤ p.z && p.z ≤ r.zmax

/-- The six bounds, least before greatest, axis by axis. -/
def Region.bounds (r : Region) : List Float :=
  [r.xmin, r.xmax, r.ymin, r.ymax, r.zmin, r.zmax]

/-- The box with these six bounds. -/
def Region.ofBounds? : List Float → Option Region
  | [xmin, xmax, ymin, ymax, zmin, zmax] => some ⟨xmin, xmax, ymin, ymax, zmin, zmax⟩
  | _ => none

/-- A region that rules can refer to. -/
structure NamedRegion where
  name : String
  region : Region
  deriving Repr, Inhabited, BEq

end Sortie
