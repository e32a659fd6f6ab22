import Sortie.Scenario.Basic
/-!
# The scenarios at hand

Two rooms that a mission can be flown in by name.
-/

namespace Sortie.Catalogue

/-- A high goal behind seven obstacles. -/
def reachAvoid : Description :=
  let obstacles : List NamedRegion := [
    ⟨"obstacle1", ⟨-3, -1, -0.5, 1.5, 0.5, 2.5⟩⟩,
    ⟨"obstacle2", ⟨-4.5, -3, 0, 2.25, 0.5, 2⟩⟩,
    ⟨"obstacle3", ⟨-2, -1, 4, 5, 3.5, 4.5⟩⟩,
    ⟨"obstacle4", ⟨3, 4, -3.5, -2.5, 1, 2⟩⟩,
    ⟨"obstacle5", ⟨4, 5, 0, 1, 2, 3.5⟩⟩,
    ⟨"obstacle6", ⟨2, 3.5, 1.5, 2.5, 3.75, 5⟩⟩,
    ⟨"obstacle7", ⟨-2, -1, -2, -1, 1, 2⟩⟩]
  { name := "reach_avoid"
    regions := ⟨"goal", ⟨4, 5, 4, 5, 4, 5⟩⟩ :: obstacles
    objective := .reachAvoid "goal" (obstacles.map NamedRegion.name)
    start := .atRest (-3.5) (-3.5) 0.5
    duration := 25
    task := "Reach the goal while avoiding all obstacles." }

/-- A chest behind a door that opens once the key has been reached. -/
def treasureHunt : Description :=
  let walls : List NamedRegion := [
    ⟨"NE_inside_wall", ⟨2, 5, 3, 3.5, 0, 3⟩⟩,
    ⟨"south_mid_inside_wall", ⟨0, 0.5, -5, -2.5, 0, 3⟩⟩,
    ⟨"north_mid_inside_wall", ⟨0, 0.5, -1, 5, 0, 3⟩⟩,
    ⟨"west_inside_wall", ⟨-2.25, -1.75, -5, 3.5, 0, 3⟩⟩,
    ⟨"above_door_wall", ⟨0, 0.5, -2.5, -1, 2.5, 3⟩⟩]
  { name := "treasure_hunt"
    regions := [
      ⟨"door_key", ⟨3.75, 4.75, 3.75, 4.75, 1, 2⟩⟩,
      ⟨"chest", ⟨-4.25, -3, -4.5, -3.75, 0, 0.75⟩⟩,
      ⟨"door", ⟨0, 0.5, -2.5, -1, 0, 2.5⟩⟩,
      ⟨"room_bounds", ⟨-5, 5, -5, 5, 0, 3⟩⟩] ++ walls
    objective := .orderedAccess "chest" (walls.map NamedRegion.name) "door" "door_key"
    start := .atRest 3 (-4) 0.5
    duration := 70
    task := "Go to the key in the first 30 seconds, then go to the chest. Avoid all walls. " ++
      "Stay in the room at all times. The door will open when you reach the key." }

/-- The scenarios at hand. -/
def all : List Description :=
  [reachAvoid, treasureHunt]

/-- The names of the scenarios at hand. -/
def names : List String :=
  all.map Description.name

def find (name : String) : Except Fault Scenario :=
  match all.find? (·.name == name) with
  | some d => Scenario.check d
  | none => .error <| .configuration <|
      "unknown scenario '" ++ name ++ "', expected one of: " ++ ", ".intercalate names

end Sortie.Catalogue
