import LatticeDiff.Shape

/-!
# Grids of doubles

An array of doubles with any number of axes, kept in row-major order. Fields,
derivative matrices and whole derivative fields are grids.
-/

namespace LatticeDiff

/-- A multidimensional array of doubles. -/
structure Grid where
  shape : Shape
  /-- The entries in row-major order. -/
  cells : Array Float
  size_cells : cells.size = shape.volume

namespace Grid

/-- The grid whose entry at each index is given by a function. -/
def tabulate (shape : Shape) (entry : List Nat → Float) : Grid where
  shape
  cells := Array.ofFn fun place : Fin shape.volume => entry (shape.unrank place)
  size_cells := by simp

/-- The grid that is zero everywhere. -/
def zeros (shape : Shape) : Grid where
  shape
  cells := Array.replicate shape.volume 0.0
  size_cells := by simp

/-- A new grid, whose entries are whatever the machine has left there. -/
def allocate (machine : Machine) (shape : Shape) : Grid :=
  tabulate shape machine.leftover

/-- The grid with the given entries in row-major order. Entries that are missing
are zero. -/
def ofRow (shape : Shape) (entries : Array Float) : Grid :=
  if enough : entries.size = shape.volume then ⟨shape, entries, enough⟩
  else tabulate shape fun index => entries.getD (shape.rank index) 0.0

/-- The entry at an index within the shape. -/
def cell? (grid : Grid) (index : List Nat) : Option Float :=
  if grid.shape.contains index then grid.cells[grid.shape.rank index]? else none

/-- The entry at an index, which is zero outside of the shape. -/
def entry (grid : Grid) (index : List Nat) : Float :=
  (grid.cell? index).getD 0.0

/-- The same entries in row-major order, in another shape. -/
def reshape (grid : Grid) (shape : Shape) : Grid :=
  ofRow shape grid.cells

/-- The entry at a lattice position, if the grid has one there. -/
def at? (grid : Grid) (position : Position) : Option Float :=
  (grid.shape.index? position).bind grid.cell?

/-- Replace the entry at an index; an index outside the shape changes nothing. -/
def set (grid : Grid) (index : List Nat) (value : Float) : Grid :=
  if grid.shape.contains index then
    { grid with
      cells := grid.cells.setIfInBounds (grid.shape.rank index) value
      size_cells := by simp [grid.size_cells] }
  else grid

/-- Store a grid in the cells whose index starts with the given coordinates. What follows
them is the index in the grid that is stored. -/
def store (grid : Grid) (start : List Nat) (part : Grid) : Grid :=
  part.shape.indices.foldl (fun grid rest => grid.set (start ++ rest) (part.entry rest)) grid

/-- Replace all entries whose index starts with the given coordinates. -/
def fill (grid : Grid) (start : List Nat) (value : Float) : Grid :=
  tabulate grid.shape fun index =>
    if start.isPrefixOf index then value else grid.entry index

@[simp] theorem shape_tabulate (shape : Shape) (entry : List Nat → Float) :
    (tabulate shape entry).shape = shape := rfl

@[simp] theorem shape_zeros (shape : Shape) : (zeros shape).shape = shape := rfl

@[simp] theorem shape_fill (grid : Grid) (start : List Nat) (value : Float) :
    (grid.fill start value).shape = grid.shape := rfl

@[simp] theorem shape_set (grid : Grid) (index : List Nat) (value : Float) :
    (grid.set index value).shape = grid.shape := by
  unfold set
  split <;> rfl

theorem entry_of_cell? {grid : Grid} {index : List Nat} {value : Float}
    (found : grid.cell? index = some value) : grid.entry index = value := by
  rw [entry, found, Option.getD_some]

/-- Every index within the shape has an entry. -/
theorem cell?_isSome {grid : Grid} {index : List Nat}
    (inside : grid.shape.contains index = true) : (grid.cell? index).isSome := by
  have bound : grid.shape.rank index < grid.cells.size := by
    rw [grid.size_cells]
    exact Shape.rank_lt inside
  simp [cell?, inside, bound]

/-- A tabulated grid has the entries of its function. -/
theorem cell?_tabulate {shape : Shape} {entry : List Nat → Float} {index : List Nat}
    (inside : shape.contains index = true) :
    (tabulate shape entry).cell? index = some (entry index) := by
  have bound := Shape.rank_lt inside
  simp [cell?, tabulate, inside, bound, Shape.unrank_rank inside]

/-- A replaced entry is read back. -/
theorem cell?_set_self {grid : Grid} {index : List Nat} {value : Float}
    (inside : grid.shape.contains index = true) :
    (grid.set index value).cell? index = some value := by
  have bound : grid.shape.rank index < grid.cells.size := by
    rw [grid.size_cells]
    exact Shape.rank_lt inside
  simp [cell?, set, inside, bound]

/-- Replacing an entry leaves the others alone. -/
theorem cell?_set_of_ne {grid : Grid} {index other : List Nat} {value : Float}
    (different : other ≠ index) :
    (grid.set index value).cell? other = grid.cell? other := by
  unfold set
  split
  · next inside =>
      simp only [cell?]
      split
      · next otherInside =>
          have apart : grid.shape.rank index ≠ grid.shape.rank other := by
            intro same
            apply different
            rw [← Shape.unrank_rank inside, ← Shape.unrank_rank otherInside, same]
          simp [apart]
      · rfl
  · rfl

end Grid

end LatticeDiff
