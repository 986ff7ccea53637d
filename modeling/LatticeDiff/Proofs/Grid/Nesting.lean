import LatticeDiff.Grid.Args
import LatticeDiff.Proofs.Arg.Coordinates
import LatticeDiff.Proofs.Region.Membership

/-!
# What grids of nested lists hold

An index leads through lists that nest regularly, one coordinate for each depth, to one of the
scalars. These are kept in row-major order, so the grid that nested lists stand for has at every
index the double of the scalar there.
-/

namespace LatticeDiff

namespace Arg

/-- The item that an index leads to, from the outermost list on. -/
def item? : Arg → List Nat → Option Arg
  | argument, [] => some argument
  | .list items, place :: index => items[place]?.bind fun item => item.item? index
  | _, _ :: _ => none

/-- The entry at a position of nested lists, as a double. -/
def doubleAt? (argument : Arg) (position : Position) : Option Float :=
  (argument.item? (position.map Int.toNat)).bind fun item => item.asCell.toOption

theorem shape?_of_commonShape? {items : List Arg} {inner : Shape}
    (common : commonShape? items = some inner) : ∀ item ∈ items, item.shape? = some inner := by
  induction items with
  | nil => simp
  | cons item items ih =>
      rw [commonShape?] at common
      split at common
      · next first others found rest =>
          obtain ⟨alike, same⟩ := Option.ite_none_right_eq_some.1 common
          cases same
          rw [List.forall_mem_cons]
          refine ⟨found, ?_⟩
          rw [Bool.or_eq_true, List.isEmpty_iff, decide_eq_true_eq] at alike
          rcases alike with rfl | rfl
          · simp
          · exact ih rest
      · cases common

theorem exists_items_of_shape? {argument : Arg} {length : Nat} {inner : Shape}
    (shaped : argument.shape? = some (length :: inner)) :
    ∃ items, argument = .list items ∧ items.length = length ∧
      ∀ item ∈ items, item.shape? = some inner := by
  cases argument with
  | list items =>
      simp only [shape?, Option.map_eq_some_iff, List.cons.injEq] at shaped
      obtain ⟨_, common, same, rfl⟩ := shaped
      exact ⟨items, rfl, same, shape?_of_commonShape? common⟩
  | nothing | bool | int | real | text | kind => simp [shape?] at shaped

section Rows

variable {items : List Arg} {size : Nat}

theorem length_scalarsOf (same : ∀ item ∈ items, item.scalars.length = size) :
    (scalarsOf items).length = items.length * size := by
  induction items with
  | nil => simp [scalarsOf]
  | cons item items ih =>
      obtain ⟨first, others⟩ := List.forall_mem_cons.1 same
      rw [scalarsOf, List.length_append, first, ih others, List.length_cons, Nat.succ_mul,
        Nat.add_comm]

/-- Lists of equally many scalars stand one after the other. -/
theorem getElem?_scalarsOf (same : ∀ item ∈ items, item.scalars.length = size) {place rest : Nat}
    (below : rest < size) :
    (scalarsOf items)[place * size + rest]? =
      items[place]?.bind fun item => item.scalars[rest]? := by
  induction items generalizing place with
  | nil => simp [scalarsOf]
  | cons item items ih =>
      obtain ⟨first, others⟩ := List.forall_mem_cons.1 same
      rw [scalarsOf]
      cases place with
      | zero =>
          have inFirst : 0 * size + rest < item.scalars.length := by omega
          rw [List.getElem?_append_left inFirst, Nat.zero_mul, Nat.zero_add,
            List.getElem?_cons_zero, Option.bind_some]
      | succ place =>
          have beyond : item.scalars.length ≤ (place + 1) * size + rest := by
            rw [first, Nat.succ_mul]
            omega
          have remaining : (place + 1) * size + rest - size = place * size + rest := by
            rw [Nat.succ_mul]
            omega
          rw [List.getElem?_append_right beyond, first, remaining, ih others,
            List.getElem?_cons_succ]

end Rows

theorem length_scalars {argument : Arg} {shape : Shape}
    (shaped : argument.shape? = some shape) : argument.scalars.length = shape.volume := by
  -- The induction is on the shape, since it is the same one for all items of a list.
  induction shape generalizing argument with
  | nil => rw [scalars_of_shape?_nil shaped, List.length_singleton, Shape.volume_nil]
  | cons length inner ih =>
      obtain ⟨items, rfl, rfl, each⟩ := exists_items_of_shape? shaped
      rw [scalars, length_scalarsOf fun item member => ih (each item member), Shape.volume_cons]

/-- The scalars of lists that nest regularly are in row-major order. -/
theorem getElem?_scalars {argument : Arg} {shape : Shape} {index : List Nat}
    (shaped : argument.shape? = some shape) (inside : shape.contains index = true) :
    argument.scalars[shape.rank index]? = argument.item? index := by
  induction shape generalizing argument index with
  | nil =>
      obtain rfl := Shape.contains_nil_iff.1 inside
      rw [scalars_of_shape?_nil shaped, item?]
      rfl
  | cons length inner ih =>
      obtain ⟨place, rest, rfl, _, insideRest⟩ := Shape.contains_cons_iff.1 inside
      obtain ⟨items, rfl, _, each⟩ := exists_items_of_shape? shaped
      have same : ∀ item ∈ items, item.scalars.length = Shape.volume inner :=
        fun item member => length_scalars (each item member)
      rw [scalars, Shape.rank, getElem?_scalarsOf same (Shape.rank_lt insideRest), item?]
      cases found : items[place]? with
      | none => rfl
      | some item =>
          rw [Option.bind_some, Option.bind_some,
            ih (each item (List.mem_of_getElem? found)) insideRest]

end Arg

namespace Grid

variable {values : Arg} {grid : Grid}

/-- The grid of nested lists has their shape, and its row has the doubles of their scalars. -/
theorem row_of_ofArg (given : ofArg values = .ok grid) :
    values.shape? = some grid.shape ∧
      List.Forall₂ (fun scalar entry => scalar.asCell = .ok entry) values.scalars
        grid.cells.toList := by
  unfold ofArg at given
  split at given
  · cases given
  · next shape found =>
      have shaped := (Option.filter_eq_some_iff.1 found).1
      obtain ⟨entries, converted, made⟩ := Outcome.bind_eq_ok.1 given
      have one := Outcome.mapM_eq_ok_iff.1 converted
      have enough : entries.toArray.size = shape.volume := by
        rw [List.size_toArray, ← one.length_eq, Arg.length_scalars shaped]
      rw [ofRow, dif_pos enough] at made
      cases made
      exact ⟨shaped, one⟩

theorem at?_ofArg (given : ofArg values = .ok grid) {position : Position}
    (holds : grid.shape.Holds position) : grid.at? position = values.doubleAt? position := by
  obtain ⟨shaped, row⟩ := row_of_ofArg given
  have inside := Shape.contains_of_index? (Shape.index?_of_holds holds)
  obtain ⟨entry, stored⟩ := Option.isSome_iff_exists.1 (at?_isSome_iff.2 holds)
  have cell := stored
  rw [at?_of_holds holds, ← Array.getElem?_toList] at cell
  obtain ⟨sameLength, each⟩ := forall₂_iff_getElem?.1 row
  have bound : grid.shape.rank (position.map Int.toNat) < values.scalars.length := by
    rw [sameLength]
    exact (List.getElem?_eq_some_iff.1 cell).1
  have scalar := List.getElem?_eq_getElem bound
  have converted := each _ _ _ scalar cell
  rw [Arg.getElem?_scalars shaped inside] at scalar
  rw [stored, Arg.doubleAt?, scalar, Option.bind_some, converted]
  rfl

end Grid

end LatticeDiff
