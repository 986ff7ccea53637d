import LatticeDiff.Fault
import Mathlib.Data.List.Forall2

/-!
# Outcomes in sequence

How a computation that may fail goes on: with the value of a success, or with the
fault of a failure.
-/

namespace LatticeDiff

namespace Outcome

variable {α β : Type}

@[simp] theorem ok_bind (value : α) (next : α → Except Fault β) :
    (Except.ok value >>= next) = next value := rfl

@[simp] theorem error_bind (fault : Fault) (next : α → Except Fault β) :
    (Except.error fault >>= next) = .error fault := rfl

theorem bind_eq_ok {outcome : Except Fault α} {next : α → Except Fault β} {result : β} :
    (outcome >>= next) = .ok result ↔
      ∃ value, outcome = .ok value ∧ next value = .ok result := by
  cases outcome with
  | error fault => simp
  | ok value => simp

/-- A sequence that fails has failed in its first part, or gone through a value of it. -/
theorem bind_eq_error {outcome : Except Fault α} {next : α → Except Fault β} {fault : Fault} :
    (outcome >>= next) = .error fault ↔
      outcome = .error fault ∨ ∃ value, outcome = .ok value ∧ next value = .error fault := by
  cases outcome with
  | error fault => simp
  | ok value => simp

theorem exists_of_foldlM_eq_ok {step : β → α → Except Fault β} {items : List α}
    {start result : β} (success : items.foldlM step start = .ok result) :
    ∀ item ∈ items, ∃ before after, step before item = .ok after := by
  induction items generalizing start with
  | nil => simp
  | cons first items ih =>
      rw [List.foldlM_cons] at success
      obtain ⟨next, stepped, rest⟩ := bind_eq_ok.1 success
      intro item member
      rcases List.mem_cons.1 member with rfl | later
      · exact ⟨start, next, stepped⟩
      · exact ih rest item later

theorem mapM_eq_ok_iff {treat : α → Except Fault β} {items : List α} {results : List β} :
    items.mapM treat = .ok results ↔
      List.Forall₂ (fun item result => treat item = .ok result) items results := by
  induction items generalizing results with
  | nil =>
      rw [List.mapM_nil, List.forall₂_nil_left_iff]
      constructor
      · intro success
        cases success
        rfl
      · rintro rfl
        rfl
  | cons item items ih =>
      rw [List.mapM_cons, bind_eq_ok, List.forall₂_cons_left_iff]
      constructor
      · rintro ⟨first, treated, success⟩
        obtain ⟨rest, treatedRest, success⟩ := bind_eq_ok.1 success
        cases success
        exact ⟨first, rest, treated, ih.1 treatedRest, rfl⟩
      · rintro ⟨first, rest, treated, treatedRest, rfl⟩
        refine ⟨first, treated, ?_⟩
        rw [ih.2 treatedRest]
        rfl

theorem mapM_range_eq_ok {treat : Nat → Except Fault β} {count : Nat} {results : List β}
    (success : (List.range count).mapM treat = .ok results) :
    results.length = count ∧
      ∀ number (bound : number < results.length), treat number = .ok results[number] := by
  obtain ⟨sameLength, each⟩ := List.forall₂_iff_get.1 (mapM_eq_ok_iff.1 success)
  refine ⟨sameLength.symm.trans List.length_range, ?_⟩
  intro number bound
  have treated := each number (sameLength ▸ bound) bound
  rwa [List.get_eq_getElem, List.getElem_range, List.get_eq_getElem] at treated

/-- Treating the items of a list one after the other fails as one of them does. -/
theorem exists_of_mapM_eq_error {treat : α → Except Fault β} {items : List α} {fault : Fault}
    (failed : items.mapM treat = .error fault) : ∃ item ∈ items, treat item = .error fault := by
  induction items with
  | nil => cases failed
  | cons item items ih =>
      rw [List.mapM_cons] at failed
      cases treated : treat item with
      | error first =>
          rw [treated] at failed
          cases failed
          exact ⟨item, by simp, treated⟩
      | ok value =>
          rw [treated, ok_bind] at failed
          cases rest : items.mapM treat with
          | error later =>
              rw [rest] at failed
              cases failed
              obtain ⟨other, member, otherFailed⟩ := ih rest
              exact ⟨other, by simp [member], otherFailed⟩
          | ok values =>
              rw [rest] at failed
              cases failed

theorem exists_mapM_eq_ok_iff {treat : α → Except Fault β} {items : List α} :
    (∃ results, items.mapM treat = .ok results) ↔
      ∀ item ∈ items, ∃ result, treat item = .ok result := by
  constructor
  · rintro ⟨results, success⟩ item member
    obtain ⟨place, bound, rfl⟩ := List.mem_iff_getElem.1 member
    obtain ⟨_, each⟩ := List.forall₂_iff_get.1 (mapM_eq_ok_iff.1 success)
    have inResults : place < results.length :=
      (mapM_eq_ok_iff.1 success).length_eq ▸ bound
    exact ⟨results[place], each place bound inResults⟩
  · intro each
    cases outcome : items.mapM treat with
    | ok results => exact ⟨results, rfl⟩
    | error fault =>
        obtain ⟨item, member, failed⟩ := exists_of_mapM_eq_error outcome
        obtain ⟨result, success⟩ := each item member
        rw [failed] at success
        cases success

end Outcome

end LatticeDiff
