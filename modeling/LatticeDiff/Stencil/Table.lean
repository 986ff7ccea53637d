import LatticeDiff.Stencil.Basic

/-!
# Tabulated formulas

The known formulas of every kind. The backward formulas are not written down: they
are the forward ones, reflected.
-/

namespace LatticeDiff

namespace Stencil

/-- An entry of the table. -/
def tabulated (kind : Kind) (derivative order divisor : Int) (nonzero : divisor ≠ 0)
    (terms : List Term) : Stencil :=
  { kind, order, derivative, terms, divisor, divisor_ne_zero := nonzero }

/-- First derivatives from samples on both sides. -/
def centralFirst : List Stencil :=
  [tabulated .central 1 2 2 (by decide)
     [⟨-1, -1⟩, ⟨1, 1⟩],
   tabulated .central 1 4 12 (by decide)
     [⟨-2, 1⟩, ⟨-1, -8⟩, ⟨1, 8⟩, ⟨2, -1⟩],
   tabulated .central 1 6 60 (by decide)
     [⟨-3, -1⟩, ⟨-2, 9⟩, ⟨-1, -45⟩, ⟨1, 45⟩, ⟨2, -9⟩, ⟨3, 1⟩],
   tabulated .central 1 8 840 (by decide)
     [⟨-4, 3⟩, ⟨-3, -32⟩, ⟨-2, 168⟩, ⟨-1, -672⟩,
      ⟨1, 672⟩, ⟨2, -168⟩, ⟨3, 32⟩, ⟨4, -3⟩]]

/-- Second derivatives from samples on both sides. -/
def centralSecond : List Stencil :=
  [tabulated .central 2 2 1 (by decide)
     [⟨-1, 1⟩, ⟨0, -2⟩, ⟨1, 1⟩],
   tabulated .central 2 4 12 (by decide)
     [⟨-2, -1⟩, ⟨-1, 16⟩, ⟨0, -30⟩, ⟨1, 16⟩, ⟨2, -1⟩]]

/-- First derivatives from samples at the point and above it. -/
def forwardFirst : List Stencil :=
  [tabulated .forward 1 1 1 (by decide)
     [⟨0, -1⟩, ⟨1, 1⟩],
   tabulated .forward 1 2 2 (by decide)
     [⟨0, -3⟩, ⟨1, 4⟩, ⟨2, -1⟩],
   tabulated .forward 1 3 6 (by decide)
     [⟨0, -11⟩, ⟨1, 18⟩, ⟨2, -9⟩, ⟨3, 2⟩],
   tabulated .forward 1 4 12 (by decide)
     [⟨0, -25⟩, ⟨1, 48⟩, ⟨2, -36⟩, ⟨3, 16⟩, ⟨4, -3⟩],
   tabulated .forward 1 5 60 (by decide)
     [⟨0, -137⟩, ⟨1, 300⟩, ⟨2, -300⟩, ⟨3, 200⟩, ⟨4, -75⟩, ⟨5, 12⟩],
   tabulated .forward 1 6 60 (by decide)
     [⟨0, -147⟩, ⟨1, 360⟩, ⟨2, -450⟩, ⟨3, 400⟩, ⟨4, -225⟩, ⟨5, 72⟩, ⟨6, -10⟩]]

/-- The formulas of a kind, by derivative and then by order. -/
def table : Kind → List Stencil
  | .central => centralFirst ++ centralSecond
  | .forward => forwardFirst
  | .backward => forwardFirst.map reflect

/-- All tabulated formulas. -/
def all : List Stencil :=
  Kind.all.flatMap table

end Stencil

end LatticeDiff
