import LatticeDiff.Arg.Coordinates
import LatticeDiff.Proofs.Outcome

/-!
# Rows of coordinates

An argument that is accepted as a position is a row, that is a list whose items are scalars.
It has exactly the required number of coordinates, whatever its entries were before they were
converted.
-/

namespace LatticeDiff

namespace Arg

theorem truncatedItems_ofPosition (machine : Machine) (position : List Int) :
    (ofPosition position).truncatedItems machine = .ok position := by
  rw [ofPosition, truncatedItems, items_list, Outcome.ok_bind, Outcome.mapM_eq_ok_iff,
    List.forall₂_map_left_iff, List.forall₂_same]
  intro value _
  exact truncated_int machine value

/-- Everything of the shape of a scalar is its own only scalar. -/
theorem scalars_of_shape?_nil {item : Arg} (flat : shape? item = some []) :
    scalars item = [item] := by
  cases item with
  | list items => simp [shape?] at flat
  | nothing | bool | int | real | text | kind => rfl

theorem commonShape?_cons_eq_nil_iff {item : Arg} {items : List Arg} :
    commonShape? (item :: items) = some [] ↔
      item.shape? = some [] ∧ commonShape? items = some [] := by
  rw [commonShape?]
  cases items with
  | nil => cases item.shape? <;> simp [commonShape?]
  | cons next rest =>
      cases item.shape? with
      | none => simp
      | some first =>
          cases commonShape? (next :: rest) with
          | none => simp
          | some others =>
              simp only [List.isEmpty_cons, Bool.false_or, decide_eq_true_eq,
                Option.ite_none_right_eq_some, Option.some.injEq]
              constructor
              · rintro ⟨rfl, rfl⟩
                exact ⟨rfl, rfl⟩
              · rintro ⟨rfl, rfl⟩
                exact ⟨rfl, rfl⟩

theorem commonShape?_eq_nil_iff {items : List Arg} :
    commonShape? items = some [] ↔ ∀ item ∈ items, item.shape? = some [] := by
  induction items with
  | nil => simp [commonShape?]
  | cons item items ih => rw [commonShape?_cons_eq_nil_iff, ih, List.forall_mem_cons]

theorem scalarsOf_row {items : List Arg} (flat : ∀ item ∈ items, item.shape? = some []) :
    scalarsOf items = items := by
  induction items with
  | nil => rfl
  | cons item items ih =>
      obtain ⟨first, others⟩ := List.forall_mem_cons.1 flat
      rw [scalarsOf, scalars_of_shape?_nil first, ih others]
      rfl

theorem coordinates_row {entries : List Arg}
    (flat : ∀ entry ∈ entries, entry.shape? = some []) :
    (Arg.list entries).coordinates entries.length =
      (unify entries).mapM (integral "coordinate") := by
  have shape : (Arg.list entries).arrayShape? = some [entries.length] := by
    simp [arrayShape?, shape?, commonShape?_eq_nil_iff.2 flat, Shape.axisLimit]
  simp only [coordinates, shape, if_true]
  rw [scalars, scalarsOf_row flat]

theorem exists_row_of_coordinates {ndim : Int} {argument : Arg} {accepted : List Int}
    (success : argument.coordinates ndim = .ok accepted) :
    ∃ entries, argument = .list entries ∧ (∀ entry ∈ entries, entry.shape? = some []) ∧
      argument.scalars = entries ∧ ndim = entries.length := by
  unfold coordinates at success
  split at success
  · cases success
  · next length shape =>
      split at success
      · next same =>
          have row := (Option.filter_eq_some_iff.1 shape).1
          cases argument with
          | list items =>
              simp only [shape?, Option.map_eq_some_iff, List.cons.injEq] at row
              obtain ⟨inner, found, rfl, rfl⟩ := row
              have flat := commonShape?_eq_nil_iff.1 found
              exact ⟨items, rfl, flat, scalarsOf_row flat, same.symm⟩
          | nothing | bool | int | real | text | kind => simp [shape?] at row
      · cases success
  · cases success

theorem length_of_coordinates {ndim : Nat} {position : Arg} {accepted : List Int}
    (success : position.coordinates ndim = .ok accepted) : accepted.length = ndim := by
  obtain ⟨entries, rfl, flat, _, same⟩ := exists_row_of_coordinates success
  rw [same, coordinates_row flat] at success
  rw [← (Outcome.mapM_eq_ok_iff.1 success).length_eq, unify, List.length_map]
  exact (Int.ofNat.inj same).symm

end Arg

end LatticeDiff
