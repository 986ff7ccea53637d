import LatticeDiff.Evaluator.Scheme
import LatticeDiff.Proofs.Evaluator.Evaluate

/-!
# Facts about the table

What holds of every tabulated formula: its integers become doubles without trouble,
and it samples at the very ends of its reach. A lookup only ever finds tabulated
formulas, and one that answers the request.
-/

namespace LatticeDiff

namespace Stencil

theorem lt_overflowThreshold {magnitude : Nat} (small : magnitude ≤ 1000000) :
    magnitude < Binary64.overflowThreshold := by
  have far : 1000000 < Binary64.overflowThreshold := by decide +kernel
  exact Nat.lt_of_le_of_lt small far

theorem natAbs_le_of_mem_all : ∀ stencil ∈ all,
    (∀ term ∈ stencil.terms, term.weight.natAbs ≤ 1000) ∧ stencil.divisor.natAbs ≤ 1000 := by
  decide

theorem convertible_of_mem_all {stencil : Stencil} (tabulated : stencil ∈ all) :
    stencil.Convertible := by
  obtain ⟨weights, divisor⟩ := natAbs_le_of_mem_all stencil tabulated
  constructor
  · intro term member
    have small := weights term member
    exact lt_overflowThreshold (by omega)
  · exact lt_overflowThreshold (by omega)

theorem square_lt_overflowThreshold {stencil : Stencil} (tabulated : stencil ∈ all) :
    (stencil.divisor * stencil.divisor).natAbs < Binary64.overflowThreshold := by
  have small := (natAbs_le_of_mem_all stencil tabulated).2
  rw [Int.natAbs_mul]
  exact lt_overflowThreshold (Nat.mul_le_mul small small)

theorem reach_mem_offsets : ∀ stencil ∈ all,
    stencil.terms ≠ [] ∧ -(stencil.lowReach : Int) ∈ stencil.offsets ∧
      (stencil.highReach : Int) ∈ stencil.offsets := by
  decide

theorem lookup_eq_ok {kind order derivative : Arg} {stencil : Stencil}
    (found : lookup kind order derivative = .ok stencil) :
    ∃ known, kind.asKind = .ok known ∧ stencil ∈ table known ∧
      order = .int stencil.order ∧ derivative.equalInt? = some stencil.derivative := by
  rw [lookup, Outcome.bind_eq_ok] at found
  obtain ⟨known, named, found⟩ := found
  split at found
  · next wanted =>
      split at found
      · cases found
      · split at found
        · next answer stencilFound =>
            cases found
            have accepted := List.find?_some stencilFound
            simp only [Bool.and_eq_true, decide_eq_true_eq] at accepted
            refine ⟨known, named, List.mem_of_find?_eq_some stencilFound, ?_, accepted.2⟩
            rw [accepted.1]
        · cases found
  · cases found

theorem mem_all_of_lookup {kind order derivative : Arg} {stencil : Stencil}
    (found : lookup kind order derivative = .ok stencil) : stencil ∈ all := by
  obtain ⟨known, _, member, _⟩ := lookup_eq_ok found
  exact List.mem_flatMap.2 ⟨known, Kind.mem_all known, member⟩

end Stencil

namespace Scheme

theorem hessianFormulas_eq_ok {order : Arg} {second first : Stencil}
    (found : hessianFormulas order = .ok (second, first)) :
    Stencil.lookup (.kind .central) order (.int 2) = .ok second ∧
      Stencil.lookup (.kind .central) order (.int 1) = .ok first := by
  rw [hessianFormulas, Outcome.bind_eq_ok] at found
  obtain ⟨foundSecond, lookupSecond, found⟩ := found
  rw [Outcome.bind_eq_ok] at found
  obtain ⟨foundFirst, lookupFirst, found⟩ := found
  cases found
  exact ⟨lookupSecond, lookupFirst⟩

theorem convertible_hessian {order : Arg} {second first : Stencil}
    (found : hessianFormulas order = .ok (second, first)) :
    (hessian second first).Convertible := by
  obtain ⟨lookupSecond, lookupFirst⟩ := hessianFormulas_eq_ok found
  have tabulatedFirst := Stencil.mem_all_of_lookup lookupFirst
  exact ⟨Stencil.convertible_of_mem_all (Stencil.mem_all_of_lookup lookupSecond),
    Stencil.convertible_of_mem_all tabulatedFirst,
    Stencil.square_lt_overflowThreshold tabulatedFirst⟩

end Scheme

end LatticeDiff
