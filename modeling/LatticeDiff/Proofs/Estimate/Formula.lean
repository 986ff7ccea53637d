import LatticeDiff.Proofs.Estimate.Trace

/-!
# The values of estimates

An estimate depends on its samples alone. Where they can be read, an estimate along one
axis is the formula applied to the list of samples, and an estimate of a mixed derivative
is the nested sum of products written out. Sums run in the order of the terms and start from zero, so both agree to
the last bit.
-/

namespace LatticeDiff

namespace Stencil

/-- The sum of weighted samples in the order of the terms, from a function of the
offset. -/
def sampleSum (sample : Int → Float) (terms : List Term) : Float :=
  terms.foldl (fun total term => total + Float.ofInt term.weight * sample term.offset) 0.0

/-- The quotient for a mixed derivative: a sum along an outer axis of sums along an
inner one, from a function of both offsets. -/
def crossQuotient (stencil : Stencil) (sample : Int → Int → Float) : Float :=
  sampleSum (fun outer => sampleSum (sample outer) stencil.terms) stencil.terms
    / Float.ofInt (stencil.divisor * stencil.divisor)

theorem weightedSum_congr {first second : Int → Except Fault Float} {terms : List Term}
    (same : ∀ term ∈ terms, first term.offset = second term.offset) :
    weightedSum first terms = weightedSum second terms := by
  unfold weightedSum
  generalize (0.0 : Float) = total
  induction terms generalizing total with
  | nil => rfl
  | cons term terms ih =>
      have head : addTerm first total term = addTerm second total term := by
        rw [addTerm, addTerm, same term (by simp)]
      rw [List.foldlM_cons, List.foldlM_cons, head]
      congr 1
      funext next
      exact ih (fun other member => same other (by simp [member])) next

/-- Sums are the same if their samples are, wherever and by whom each of them is read. -/
theorem sumAt_congr_offsets {first second : Reader} {stencil : Stencil} {axis other : Nat}
    {position place : Position}
    (same : ∀ offset ∈ stencil.offsets,
      first (position.shift axis offset) = second (place.shift other offset)) :
    stencil.sumAt first axis position = stencil.sumAt second other place := by
  apply weightedSum_congr
  intro term member
  exact same term.offset (List.mem_map_of_mem member)

theorem sumAt_congr {first second : Reader} {stencil : Stencil} {axis : Nat}
    {position : Position}
    (same : ∀ place ∈ stencil.samplesAt axis position, first place = second place) :
    stencil.sumAt first axis position = stencil.sumAt second axis position := by
  apply sumAt_congr_offsets
  intro offset member
  exact same _ (List.mem_map_of_mem member)

theorem weightedSum_ok {sample : Int → Float} {terms : List Term}
    (small : ∀ term ∈ terms, term.weight.natAbs < Binary64.overflowThreshold) :
    weightedSum (fun offset => .ok (sample offset)) terms = .ok (sampleSum sample terms) := by
  unfold weightedSum sampleSum
  generalize (0.0 : Float) = total
  induction terms generalizing total with
  | nil => rfl
  | cons term terms ih =>
      rw [List.foldlM_cons, List.foldl_cons, addTerm_of_lt (small term (by simp))]
      exact ih (fun other member => small other (by simp [member])) _

/-- Applying a formula to a list of doubles sums them in the order of the terms. -/
theorem apply_map_real (stencil : Stencil) (sample : Int → Float) :
    stencil.apply (stencil.offsets.map fun offset => .real (sample offset)) = (do
      let total ← weightedSum (fun offset => .ok (sample offset)) stencil.terms
      quotient total stencil.divisor) := by
  have sameLength :
      (stencil.offsets.map fun offset => Arg.real (sample offset)).length =
        stencil.terms.length := by
    simp [offsets]
  have paired : stencil.terms.zip (stencil.offsets.map fun offset => Arg.real (sample offset))
      = stencil.terms.map fun term => (term, Arg.real (sample term.offset)) := by
    rw [offsets, List.map_map, List.map_prod_left_eq_zip]
    rfl
  have step : ∀ total term, addSample total term.weight (.real (sample term.offset)) =
      addTerm (fun offset => .ok (sample offset)) total term := by
    intro total term
    rw [addTerm, Outcome.ok_bind, addSample]
  unfold apply weightedSum
  rw [if_neg (not_not.2 sameLength), paired, List.foldlM_map]
  simp only [step]

end Stencil

namespace Derivative

theorem estimateAt_along_congr {first second : Reader} {stencil : Stencil} {axis other : Nat}
    {position place : Position}
    (same : ∀ offset ∈ stencil.offsets,
      first (position.shift axis offset) = second (place.shift other offset)) :
    (along stencil axis).estimateAt first position =
      (along stencil other).estimateAt second place := by
  rw [estimateAt, estimateAt, Stencil.sumAt_congr_offsets same]

theorem estimateAt_mixed_congr {first second : Reader} {stencil : Stencil}
    {outer inner otherOuter otherInner : Nat} {position place : Position}
    (same : ∀ far ∈ stencil.offsets, ∀ near ∈ stencil.offsets,
      first ((position.shift outer far).shift inner near) =
        second ((place.shift otherOuter far).shift otherInner near)) :
    (mixed stencil outer inner).estimateAt first position =
      (mixed stencil otherOuter otherInner).estimateAt second place := by
  have rows : Stencil.weightedSum
      (fun offset => stencil.sumAt first inner (position.shift outer offset)) stencil.terms =
        Stencil.weightedSum
          (fun offset => stencil.sumAt second otherInner (place.shift otherOuter offset))
          stencil.terms := by
    apply Stencil.weightedSum_congr
    intro term member
    exact Stencil.sumAt_congr_offsets (same term.offset (List.mem_map_of_mem member))
  rw [estimateAt, estimateAt, rows]

theorem estimateAt_along_of_ok {first second : Reader} {stencil : Stencil} {axis other : Nat}
    {position place : Position} {value : Float}
    (carried : ∀ offset ∈ stencil.offsets, ∀ sample,
      first (position.shift axis offset) = .ok sample →
        second (place.shift other offset) = .ok sample)
    (estimated : (along stencil axis).estimateAt first position = .ok value) :
    (along stencil other).estimateAt second place = .ok value := by
  obtain ⟨_, served⟩ := (follows_estimateAt first position _).complete value estimated
  rw [← estimated]
  apply estimateAt_along_congr
  intro offset member
  obtain ⟨sample, found⟩ := served _ (List.mem_map_of_mem member)
  rw [found, carried offset member sample found]

theorem estimateAt_mixed_of_ok {first second : Reader} {stencil : Stencil}
    {outer inner otherOuter otherInner : Nat} {position place : Position} {value : Float}
    (carried : ∀ far ∈ stencil.offsets, ∀ near ∈ stencil.offsets, ∀ sample,
      first ((position.shift outer far).shift inner near) = .ok sample →
        second ((place.shift otherOuter far).shift otherInner near) = .ok sample)
    (estimated : (mixed stencil outer inner).estimateAt first position = .ok value) :
    (mixed stencil otherOuter otherInner).estimateAt second place = .ok value := by
  obtain ⟨_, served⟩ := (follows_estimateAt first position _).complete value estimated
  rw [← estimated]
  apply estimateAt_mixed_congr
  intro far farMember near nearMember
  obtain ⟨sample, found⟩ := served _
    (List.mem_flatMap.2 ⟨far, farMember, List.mem_map_of_mem nearMember⟩)
  rw [found, carried far farMember near nearMember sample found]

theorem estimateAt_congr {first second : Reader} {derivative : Derivative}
    {position : Position}
    (same : ∀ place ∈ derivative.samplesAt position, first place = second place) :
    derivative.estimateAt first position = derivative.estimateAt second position := by
  cases derivative with
  | along stencil axis =>
      apply estimateAt_along_congr
      intro offset member
      exact same _ (List.mem_map_of_mem member)
  | mixed stencil outer inner =>
      apply estimateAt_mixed_congr
      intro far farMember near nearMember
      exact same _ (List.mem_flatMap.2 ⟨far, farMember, List.mem_map_of_mem nearMember⟩)

/-- Where its samples can be read, an estimate along an axis is the formula applied to
them. -/
theorem estimateAt_along {read : Reader} {position : Position} {stencil : Stencil}
    {axis : Nat} {sample : Position → Float}
    (found : ∀ place ∈ stencil.samplesAt axis position, read place = .ok (sample place)) :
    (along stencil axis).estimateAt read position =
      stencil.apply (stencil.offsets.map fun offset =>
        .real (sample (position.shift axis offset))) := by
  rw [Stencil.apply_map_real, estimateAt, Stencil.sumAt_congr found, Stencil.sumAt]

/-- Where its samples can be read, an estimate of a mixed derivative is the nested sum of
products, divided by the square of the divisor. -/
theorem estimateAt_mixed {read : Reader} {position : Position} {stencil : Stencil}
    {outer inner : Nat} {sample : Position → Float}
    (convertible : (mixed stencil outer inner).Convertible)
    (found : ∀ place ∈ (mixed stencil outer inner).samplesAt position,
      read place = .ok (sample place)) :
    (mixed stencil outer inner).estimateAt read position =
      .ok (stencil.crossQuotient fun first second =>
        sample ((position.shift outer first).shift inner second)) := by
  have row : ∀ first, stencil.sumAt (fun place => .ok (sample place)) inner
      (position.shift outer first) = .ok (Stencil.sampleSum
        (fun second => sample ((position.shift outer first).shift inner second))
        stencil.terms) :=
    fun first => Stencil.weightedSum_ok convertible.1.weights
  rw [estimateAt_congr found, estimateAt]
  simp only [row]
  rw [Stencil.weightedSum_ok convertible.1.weights, Outcome.ok_bind,
    Stencil.quotient_of_lt convertible.2, Stencil.crossQuotient]

end Derivative

namespace Entry

theorem fillAllAt_congr_estimates {first second : Reader} {position place : Position}
    {entries : List Entry}
    (same : ∀ entry ∈ entries, entry.derivative.estimateAt first position =
      entry.derivative.estimateAt second place) (matrix : Grid) :
    fillAllAt first position entries matrix = fillAllAt second place entries matrix := by
  induction entries generalizing matrix with
  | nil => rfl
  | cons entry entries ih =>
      obtain ⟨here, others⟩ := List.forall_mem_cons.1 same
      rw [fillAllAt, fillAllAt, here]
      cases entry.derivative.estimateAt second place with
      | error fault => rfl
      | ok value => exact ih others (entry.store value matrix)

end Entry

end LatticeDiff
