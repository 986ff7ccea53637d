import LatticeDiff.Proofs.Estimate.Reading

/-!
# Where estimates read

An estimate asks for its samples in a fixed order and stops at the first failure. So the
positions that it has read are the first of its samples, and all of them if it succeeds.
What makes it fail is either the last of these readings or, after readings that have all
succeeded, an integer that is too large to become a double.
-/

namespace LatticeDiff

namespace Reader

variable {α β : Type}

/-- An outcome is found by reading at positions in order, as far as `reads`. -/
structure Follows (read : Reader) (positions reads : List Position)
    (outcome : Except Fault α) : Prop where
  begins : reads <+: positions
  complete : ∀ value, outcome = .ok value →
    reads = positions ∧ ∀ place ∈ positions, Serves read place
  fails : ∀ fault, outcome = .error fault →
    (fault = .tooLarge ∧ ∀ place ∈ reads, Serves read place) ∨
    ∃ before place after, positions = before ++ place :: after ∧ reads = before ++ [place] ∧
      (∀ earlier ∈ before, Serves read earlier) ∧ read place = .error fault

theorem follows_read (read : Reader) (position : Position) :
    Follows read [position] [position] (read position) where
  begins := List.prefix_rfl
  complete := by
    intro value found
    refine ⟨rfl, ?_⟩
    intro place member
    rw [List.mem_singleton.1 member]
    exact ⟨value, found⟩
  fails := by
    intro fault failed
    right
    exact ⟨[], position, [], rfl, rfl, by simp, failed⟩

theorem follows_nil (read : Reader) {outcome : Except Fault α}
    (arithmetic : ∀ fault, outcome = .error fault → fault = .tooLarge) :
    Follows read [] [] outcome where
  begins := List.prefix_rfl
  complete := by simp
  fails := by
    intro fault failed
    exact .inl ⟨arithmetic fault failed, by simp⟩

theorem Follows.bind {read : Reader} {first second reads : List Position}
    {nextReads : α → List Position} {outcome : Except Fault α} {next : α → Except Fault β}
    (followed : Follows read first reads outcome)
    (continued : ∀ value, Follows read second (nextReads value) (next value)) :
    Follows read (first ++ second) (reads ++ Walk.readsAfter outcome nextReads)
      (outcome >>= next) := by
  cases outcome with
  | error fault =>
      rw [Walk.readsAfter, List.append_nil]
      refine ⟨followed.begins.trans (List.prefix_append first second), ?_, ?_⟩
      · intro value found
        cases found
      · intro other failed
        cases failed
        rcases followed.fails fault rfl with arithmetic |
          ⟨before, place, after, split, stopped, served, failure⟩
        · exact .inl arithmetic
        · right
          refine ⟨before, place, after ++ second, ?_, stopped, served, failure⟩
          rw [split, List.append_assoc, List.cons_append]
  | ok value =>
      obtain ⟨rfl, servedFirst⟩ := followed.complete value rfl
      have rest := continued value
      rw [Walk.readsAfter, Outcome.ok_bind]
      refine ⟨(List.prefix_append_right_inj reads).2 rest.begins, ?_, ?_⟩
      · intro result found
        obtain ⟨same, servedSecond⟩ := rest.complete result found
        rw [same]
        refine ⟨rfl, ?_⟩
        intro place member
        rcases List.mem_append.1 member with early | late
        · exact servedFirst place early
        · exact servedSecond place late
      · intro fault failed
        rcases rest.fails fault failed with ⟨arithmetic, served⟩ |
          ⟨before, place, after, split, stopped, served, failure⟩
        · left
          refine ⟨arithmetic, ?_⟩
          intro place member
          rcases List.mem_append.1 member with early | late
          · exact servedFirst place early
          · exact served place late
        · right
          refine ⟨reads ++ before, place, after, ?_, ?_, ?_, failure⟩
          · rw [split, List.append_assoc]
          · rw [stopped, List.append_assoc]
          · intro earlier member
            rcases List.mem_append.1 member with early | late
            · exact servedFirst earlier early
            · exact served earlier late

theorem Follows.bind_arithmetic {read : Reader} {positions reads : List Position}
    {outcome : Except Fault α} {next : α → Except Fault β}
    (followed : Follows read positions reads outcome)
    (arithmetic : ∀ value fault, next value = .error fault → fault = .tooLarge) :
    Follows read positions reads (outcome >>= next) := by
  have continued := followed.bind fun value => follows_nil read (arithmetic value)
  rwa [List.append_nil, Walk.readsAfter_nil, List.append_nil] at continued

theorem Follows.map {read : Reader} {positions reads : List Position}
    {outcome : Except Fault α} (followed : Follows read positions reads outcome)
    (image : α → β) : Follows read positions reads (outcome.map image) := by
  have total : outcome.map image = (outcome >>= fun value => .ok (image value)) := by
    cases outcome <;> rfl
  rw [total]
  apply followed.bind_arithmetic
  intro value fault failed
  cases failed

theorem follows_foldlM {γ : Type} {read : Reader} {step : β → γ → Except Fault β}
    {positions reads : γ → List Position}
    (each : ∀ state item, Follows read (positions item) (reads item) (step state item))
    (state : β) (items : List γ) :
    Follows read (items.flatMap positions) (Walk.readsOfLoop step reads state items)
      (items.foldlM step state) := by
  induction items generalizing state with
  | nil =>
      apply follows_nil
      intro fault failed
      cases failed
  | cons item items ih =>
      rw [List.flatMap_cons, Walk.readsOfLoop, List.foldlM_cons]
      exact (each state item).bind fun next => ih next

end Reader

namespace Stencil

theorem eq_tooLarge_of_realOfInt {value : Int} {fault : Fault}
    (failed : Arg.realOfInt value = .error fault) : fault = .tooLarge := by
  unfold Arg.realOfInt at failed
  split at failed
  · cases failed
  · cases failed
    rfl

theorem eq_tooLarge_of_weighted {weight : Int} {sample : Float} {fault : Fault}
    (failed : weighted weight sample = .error fault) : fault = .tooLarge := by
  rcases Outcome.bind_eq_error.1 failed with unconverted | ⟨_, _, impossible⟩
  · exact eq_tooLarge_of_realOfInt unconverted
  · cases impossible

theorem eq_tooLarge_of_quotient {total : Float} {divisor : Int} {fault : Fault}
    (failed : quotient total divisor = .error fault) : fault = .tooLarge := by
  rcases Outcome.bind_eq_error.1 failed with unconverted | ⟨_, _, impossible⟩
  · exact eq_tooLarge_of_realOfInt unconverted
  · cases impossible

theorem lt_of_realOfInt {value : Int} {number : Float}
    (success : Arg.realOfInt value = .ok number) :
    value.natAbs < Binary64.overflowThreshold := by
  rcases Nat.lt_or_ge value.natAbs Binary64.overflowThreshold with small | large
  · exact small
  · have missing : Binary64.nearest? value = none := if_pos large
    unfold Arg.realOfInt at success
    rw [missing] at success
    cases success

theorem lt_of_weightedSum {value : Int → Except Fault Float} {terms : List Term}
    {total : Float} (success : weightedSum value terms = .ok total) :
    ∀ term ∈ terms, term.weight.natAbs < Binary64.overflowThreshold := by
  intro term member
  obtain ⟨before, after, added⟩ := Outcome.exists_of_foldlM_eq_ok success term member
  obtain ⟨found, _, added⟩ := Outcome.bind_eq_ok.1 added
  obtain ⟨product, weighed, _⟩ := Outcome.bind_eq_ok.1 added
  obtain ⟨weight, converted, _⟩ := Outcome.bind_eq_ok.1 weighed
  exact lt_of_realOfInt converted

theorem follows_weightedSum {read : Reader} {value : Int → Except Fault Float}
    {positions reads : Int → List Position}
    (values : ∀ offset, Reader.Follows read (positions offset) (reads offset) (value offset))
    (terms : List Term) :
    Reader.Follows read (terms.flatMap fun term => positions term.offset)
      (readsOfSum value reads terms) (weightedSum value terms) := by
  apply Reader.follows_foldlM
  intro total term
  apply (values term.offset).bind_arithmetic
  intro found fault failed
  rcases Outcome.bind_eq_error.1 failed with unweighted | ⟨_, _, impossible⟩
  · exact eq_tooLarge_of_weighted unweighted
  · cases impossible

theorem follows_sumAt (read : Reader) (stencil : Stencil) (axis : Nat) (position : Position) :
    Reader.Follows read (stencil.samplesAt axis position) (stencil.readsAt read axis position)
      (stencil.sumAt read axis position) := by
  have followed := follows_weightedSum
    (fun offset => Reader.follows_read read (position.shift axis offset)) stencil.terms
  rw [← List.map_eq_flatMap] at followed
  rw [samplesAt, offsets, List.map_map]
  exact followed

end Stencil

namespace Derivative

theorem follows_estimateAt (read : Reader) (position : Position) (derivative : Derivative) :
    Reader.Follows read (derivative.samplesAt position) (derivative.readsAt read position)
      (derivative.estimateAt read position) := by
  cases derivative with
  | along stencil axis =>
      apply (stencil.follows_sumAt read axis position).bind_arithmetic
      intro total fault failed
      exact Stencil.eq_tooLarge_of_quotient failed
  | mixed stencil outer inner =>
      have followed := Stencil.follows_weightedSum
        (fun offset => stencil.follows_sumAt read inner (position.shift outer offset))
        stencil.terms
      rw [samplesAt, Stencil.offsets, List.flatMap_map]
      apply followed.bind_arithmetic
      intro total fault failed
      exact Stencil.eq_tooLarge_of_quotient failed

/-- An estimate along an axis is found only with a formula that is convertible. -/
theorem convertible_of_estimateAt_along {read : Reader} {position : Position}
    {stencil : Stencil} {axis : Nat} {value : Float}
    (success : (along stencil axis).estimateAt read position = .ok value) :
    stencil.Convertible := by
  obtain ⟨total, summed, divided⟩ := Outcome.bind_eq_ok.1 success
  obtain ⟨divisor, converted, _⟩ := Outcome.bind_eq_ok.1 divided
  exact ⟨Stencil.lt_of_weightedSum summed, Stencil.lt_of_realOfInt converted⟩

end Derivative

namespace Entry

/-- How filling ends is found by estimating the entries one after the other. -/
theorem result_fillAllAt_eq_foldlM (read : Reader) (position : Position)
    (entries : List Entry) (matrix : Grid) :
    (fillAllAt read position entries matrix).1 =
      entries.foldlM (fun (_ : Unit) entry =>
        (entry.derivative.estimateAt read position).map fun _ => ()) () := by
  induction entries generalizing matrix with
  | nil => rfl
  | cons entry entries ih =>
      rw [fillAllAt, List.foldlM_cons]
      cases entry.derivative.estimateAt read position with
      | error fault => rfl
      | ok value => exact ih (entry.store value matrix)

theorem exists_of_fillAllAt_eq_ok {read : Reader} {position : Position}
    {entries : List Entry} {matrix : Grid}
    (success : (fillAllAt read position entries matrix).1 = .ok ()) :
    ∀ entry ∈ entries, ∃ value, entry.derivative.estimateAt read position = .ok value := by
  intro entry member
  rw [result_fillAllAt_eq_foldlM] at success
  obtain ⟨_, _, mapped⟩ := Outcome.exists_of_foldlM_eq_ok success entry member
  cases found : entry.derivative.estimateAt read position with
  | error fault =>
      rw [found] at mapped
      cases mapped
  | ok value => exact ⟨value, rfl⟩

theorem follows_fillAllAt (read : Reader) (position : Position) (entries : List Entry)
    (matrix : Grid) :
    Reader.Follows read (samplesOfAll position entries) (readsOfAll read position entries)
      (fillAllAt read position entries matrix).1 := by
  rw [result_fillAllAt_eq_foldlM]
  apply Reader.follows_foldlM
  intro _ entry
  exact (entry.derivative.follows_estimateAt read position).map _

end Entry

end LatticeDiff
