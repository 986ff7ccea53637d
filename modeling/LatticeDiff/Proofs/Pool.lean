import LatticeDiff.Pool
import LatticeDiff.Proofs.Arg.Axis

/-!
# Members of pools

What the operations on a pool make of its members. Members keep their numbers: only the
current one is ever replaced, and new ones come last.
-/

namespace LatticeDiff

namespace Pool

variable {α : Type} {pool next : Pool α}

theorem use_eq_ok_iff {index : Arg} :
    pool.use index = .ok next ↔ index.index pool.members.length = .ok next.current ∧
      next.members = pool.members := by
  rw [use, Outcome.bind_eq_ok]
  constructor
  · rintro ⟨place, found, success⟩
    split at success
    · cases success
      exact ⟨found, rfl⟩
    · cases success
  · rintro ⟨found, same⟩
    obtain ⟨members, current, bound⟩ := next
    cases same
    exact ⟨current, found, dif_pos bound⟩

theorem members_of_use {index : Arg} (success : pool.use index = .ok next) :
    next.members = pool.members :=
  (use_eq_ok_iff.1 success).2

theorem use_ofNat {number : Nat} (bound : number < pool.members.length) :
    pool.use (.int number) = .ok ⟨pool.members, number, bound⟩ :=
  use_eq_ok_iff.2 ⟨Arg.index_ofNat bound, rfl⟩

theorem members_set_get (pool : Pool α) :
    pool.members.set pool.current pool.get = pool.members :=
  List.set_getElem_self pool.current_lt

@[simp] theorem put_get (pool : Pool α) : pool.put pool.get = pool := by
  simp only [put, members_set_get]

theorem get_mem (pool : Pool α) : pool.get ∈ pool.members :=
  List.get_mem pool.members ⟨pool.current, pool.current_lt⟩

end Pool

end LatticeDiff
