import LatticeDiff.Proofs.Stencil.Table

/-!
# Lookups and listings

The table is searched in two ways. A listing goes through all formulas of a kind and keeps the
orders of those whose derivative equals the one asked for; a lookup takes order and derivative
as the key of a single formula. For the order only integers proper will do, for the derivative
whatever is equal to one. This module says that the two agree: a lookup finds a formula exactly
for the orders that are listed, and refuses all others with that list.
-/

namespace LatticeDiff

/-- Arguments that can be part of a key. Lists cannot. -/
def Arg.IsKey : Arg → Prop
  | .list _ => False
  | _ => True

theorem Arg.integersOf_map_int (values : List Int) :
    Arg.integersOf (values.map .int) = values := by
  induction values with
  | nil => rfl
  | cons value rest ih => simp [Arg.integersOf, Arg.integers, ih]

namespace Stencil

variable {known : Kind} {kind order derivative : Arg}

theorem kind_of_mem_table : ∀ kind, ∀ stencil ∈ table kind, stencil.kind = kind := by
  intro kind
  cases kind with
  | central => decide
  | forward => decide
  | backward => decide

/-- Among the formulas of a kind for one derivative, later ones have higher orders. -/
theorem pairwise_table : ∀ kind, (table kind).Pairwise fun earlier later =>
    earlier.derivative = later.derivative → earlier.order < later.order := by
  intro kind
  cases kind with
  | central => decide
  | forward => decide
  | backward => decide

theorem mem_ordersOf_iff {wanted : Int} :
    wanted ∈ ordersOf known derivative ↔
      ∃ stencil ∈ table known, derivative.equalInt? = some stencil.derivative ∧
        stencil.order = wanted := by
  simp only [ordersOf, List.mem_map, List.mem_filter, decide_eq_true_eq, and_assoc]

theorem pairwise_ordersOf (known : Kind) (derivative : Arg) :
    (ordersOf known derivative).Pairwise (· < ·) := by
  rw [ordersOf, List.pairwise_map, List.pairwise_filter]
  apply (pairwise_table known).imp
  intro earlier later increasing earlierListed laterListed
  have sameDerivative := (of_decide_eq_true earlierListed).symm.trans
    (of_decide_eq_true laterListed)
  exact increasing (Option.some.inj sameDerivative)

theorem find?_isSome_iff {wanted : Int} :
    (find? known wanted derivative).isSome ↔ wanted ∈ ordersOf known derivative := by
  rw [find?, List.find?_isSome, mem_ordersOf_iff]
  simp only [Bool.and_eq_true, decide_eq_true_eq, and_comm]

theorem lookup_of_named (named : kind.asKind = .ok known) :
    lookup (.kind known) order derivative = lookup kind order derivative := by
  rw [lookup, lookup, named, Arg.asKind_kind]

/-- Nothing but an integer is ever found. -/
theorem lookup_of_not_int (named : kind.asKind = .ok known)
    (other : ∀ wanted, order ≠ .int wanted) :
    lookup kind order derivative = .error (unsupported known order derivative) := by
  rw [lookup, named, Outcome.ok_bind]
  cases order with
  | int wanted => exact absurd rfl (other wanted)
  | _ => rfl

theorem lookup_int (named : kind.asKind = .ok known) (key : derivative.IsKey) (wanted : Int) :
    lookup kind (.int wanted) derivative =
      match find? known wanted derivative with
      | some stencil => .ok stencil
      | none => .error (unsupported known (.int wanted) derivative) := by
  rw [lookup, named, Outcome.ok_bind]
  cases derivative with
  | list items => exact key.elim
  | _ => rfl

theorem isKey_of_find? {wanted : Int} {stencil : Stencil}
    (found : find? known wanted derivative = some stencil) : derivative.IsKey := by
  have accepted := List.find?_some found
  cases derivative with
  | list items => simp [Arg.equalInt?] at accepted
  | _ => trivial

theorem lookup_eq_ok_iff {stencil : Stencil} :
    lookup kind order derivative = .ok stencil ↔
      ∃ known wanted, kind.asKind = .ok known ∧ order = .int wanted ∧
        find? known wanted derivative = some stencil := by
  constructor
  · intro success
    obtain ⟨known, named, _, rfl, _⟩ := lookup_eq_ok success
    by_cases key : derivative.IsKey
    · rw [lookup_int named key] at success
      split at success
      · next found =>
          cases success
          exact ⟨known, _, named, rfl, found⟩
      · cases success
    · cases derivative with
      | list items =>
          rw [lookup, named] at success
          cases success
      | _ => exact absurd trivial key
  · rintro ⟨known, wanted, named, rfl, found⟩
    rw [lookup_int named (isKey_of_find? found), found]

theorem exists_lookup_iff (named : kind.asKind = .ok known) (key : derivative.IsKey) :
    (∃ stencil, lookup kind order derivative = .ok stencil) ↔
      ∃ wanted ∈ ordersOf known derivative, order = .int wanted := by
  constructor
  · rintro ⟨stencil, found⟩
    obtain ⟨other, otherNamed, member, sameOrder, sameDerivative⟩ := lookup_eq_ok found
    obtain rfl : known = other := Except.ok.inj (named.symm.trans otherNamed)
    exact ⟨stencil.order, mem_ordersOf_iff.2 ⟨stencil, member, sameDerivative, rfl⟩, sameOrder⟩
  · rintro ⟨wanted, member, rfl⟩
    obtain ⟨stencil, found⟩ := Option.isSome_iff_exists.1 (find?_isSome_iff.2 member)
    exact ⟨stencil, by rw [lookup_int named key, found]⟩

/-- Once the kind is recognised, there is one way to fail. -/
theorem eq_unsupported_of_lookup (named : kind.asKind = .ok known) (key : derivative.IsKey)
    {fault : Fault} (failed : lookup kind order derivative = .error fault) :
    fault = unsupported known order derivative := by
  by_cases proper : ∃ wanted, order = .int wanted
  · obtain ⟨wanted, rfl⟩ := proper
    rw [lookup_int named key] at failed
    split at failed
    · cases failed
    · exact (Except.error.inj failed).symm
  · rw [lookup_of_not_int named (not_exists.1 proper)] at failed
    exact (Except.error.inj failed).symm

/-- A request for a formula that is not tabulated is refused with a message that shows the
order and those that are supported. -/
theorem raisedOn_unsupported (machine : Machine) :
    (unsupported known order derivative).raisedOn machine =
      if ∀ value ∈ order.integers ++ ordersOf known derivative, machine.writes value = true then
        unsupported known order derivative
      else .unwritable := by
  have printed : (unsupported known order derivative).printed =
      order.integers ++ ordersOf known derivative := by
    simp [unsupported, Fault.printed, Arg.integers, Arg.integersOf_map_int]
  rw [← printed]
  exact Fault.raisedOn_of_ne_repeated machine (by simp [unsupported])

/-- What a lookup among the formulas of a kind answers, given the orders that are listed. -/
structure AnswersBy (known : Kind) (order derivative : Arg) (orders : List Int)
    (answer : Except Fault Stencil) : Prop where
  increasing : orders.Pairwise (· < ·)
  success : (∃ stencil, answer = .ok stencil) ↔ ∃ wanted ∈ orders, order = .int wanted
  asked : ∀ stencil, answer = .ok stencil → stencil ∈ table known ∧ stencil.kind = known ∧
    order = .int stencil.order ∧ derivative.equalInt? = some stencil.derivative
  refused : ∀ fault, answer = .error fault → fault = .unsupportedOrder
    { kind := .kind known, order, supported := orders.map .int, derivative }
  /-- A machine raises the refusal unless it cannot write an integer that the message shows. -/
  raised : ∀ fault, answer = .error fault → ∀ machine : Machine, fault.raisedOn machine =
    if ∀ value ∈ order.integers ++ orders, machine.writes value = true then fault
    else .unwritable
  /-- A machine that does not limit digits writes all of them. -/
  unlimited : ∀ fault, answer = .error fault → ∀ machine : Machine,
    machine.digitLimit = none → fault.raisedOn machine = fault

theorem answersBy_lookup (named : kind.asKind = .ok known) (key : derivative.IsKey) :
    AnswersBy known order derivative (ordersOf known derivative)
      (lookup kind order derivative) where
  increasing := pairwise_ordersOf known derivative
  success := exists_lookup_iff named key
  asked := by
    intro stencil found
    obtain ⟨other, otherNamed, member, sameOrder, sameDerivative⟩ := lookup_eq_ok found
    obtain rfl : known = other := Except.ok.inj (named.symm.trans otherNamed)
    exact ⟨member, kind_of_mem_table known stencil member, sameOrder, sameDerivative⟩
  refused := fun _ failed => eq_unsupported_of_lookup named key failed
  raised := by
    intro fault failed machine
    rw [eq_unsupported_of_lookup named key failed]
    exact raisedOn_unsupported machine
  unlimited := by
    intro fault failed machine unlimited
    rw [eq_unsupported_of_lookup named key failed]
    exact Fault.raisedOn_of_unlimited unlimited (by simp [unsupported])

/-- Looking up and listing agree for all arguments. If the kind is not recognised, both fail
in the same way as that. Otherwise the listed orders increase, and a lookup succeeds exactly
if its order is one of them, as an integer proper; the formula found is a tabulated one of
that kind, that order and a derivative equal to the one asked for. In every other case the
request is refused, with the listed orders as the supported ones. -/
theorem lookup_agrees (kind order : Arg) (key : derivative.IsKey) :
    (∀ fault, kind.asKind = .error fault →
      lookup kind order derivative = .error fault ∧
        supportedOrders kind derivative = .error fault) ∧
    ∀ known, kind.asKind = .ok known →
      ∃ orders, supportedOrders kind derivative = .ok orders ∧
        AnswersBy known order derivative orders (lookup kind order derivative) := by
  constructor
  · intro fault unnamed
    rw [lookup, supportedOrders, unnamed]
    exact ⟨rfl, rfl⟩
  · intro known named
    refine ⟨ordersOf known derivative, ?_, answersBy_lookup named key⟩
    rw [supportedOrders, named]
    rfl

/-- A derivative may be given as a truth value or as a double, an order as neither. -/
theorem lookup_agrees_forward :
    let name : Arg := .text "Forward Difference"
    (Arg.real 1.0).IsKey ∧ name.asKind = .ok .forward ∧
    supportedOrders name (.real 1.0) = .ok [1, 2, 3, 4, 5, 6] ∧
    AnswersBy .forward (.int 1) (.real 1.0) [1, 2, 3, 4, 5, 6]
      (lookup name (.int 1) (.real 1.0)) ∧
    AnswersBy .forward (.bool true) (.bool true) [1, 2, 3, 4, 5, 6]
      (lookup name (.bool true) (.bool true)) := by
  intro name
  have named : name.asKind = .ok .forward := rfl
  have listed : supportedOrders name (.real 1.0) = .ok [1, 2, 3, 4, 5, 6] := rfl
  have listedTrue : supportedOrders name (.bool true) = .ok [1, 2, 3, 4, 5, 6] := rfl
  have key : (Arg.real 1.0).IsKey := trivial
  have keyTrue : (Arg.bool true).IsKey := trivial
  obtain ⟨orders, found, answers⟩ := (lookup_agrees name (.int 1) key).2 .forward named
  obtain rfl := Except.ok.inj (listed.symm.trans found)
  obtain ⟨orders, found, answersTrue⟩ :=
    (lookup_agrees name (.bool true) keyTrue).2 .forward named
  obtain rfl := Except.ok.inj (listedTrue.symm.trans found)
  exact ⟨key, named, listed, answers, answersTrue⟩

end Stencil

end LatticeDiff
