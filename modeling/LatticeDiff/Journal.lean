import LatticeDiff.Evaluator.Basic

/-!
# The journal

Building an evaluator and sweeping a region are put on record. Evaluation itself is
not.
-/

namespace LatticeDiff

/-- Something put on record. -/
inductive Record where
  | gradientBuilt (kind : Kind) (order : Int) (region padded : Region)
  | hessianBuilt (order : Int) (region padded : Region)
  | swept (scheme : Scheme) (positions : Nat)

/-- The corners of a region, as they appear on record and in descriptions. -/
def Region.text (region : Region) : String :=
  cornersText region.low region.high

namespace Record

/-- How important a record is. -/
def level : Record → String
  | .gradientBuilt _ _ _ _ | .hessianBuilt _ _ _ => "DEBUG"
  | .swept _ _ => "INFO"

/-- What a record says. -/
def message : Record → String
  | .gradientBuilt kind order region padded =>
      "Built " ++ kind.name ++ " gradient evaluator of order " ++ toString order
        ++ " over " ++ region.text ++ ", padded to " ++ padded.text ++ "."
  | .hessianBuilt order region padded =>
      "Built central Hessian evaluator of order " ++ toString order ++ " over "
        ++ region.text ++ ", padded to " ++ padded.text ++ "."
  | .swept scheme positions =>
      "Evaluated " ++ scheme.name ++ " at " ++ toString positions ++ " positions."

/-- A record as one line. -/
def line (entry : Record) : String :=
  entry.level ++ " " ++ entry.message

end Record

/-- An evaluator described by its region of interest and its position. -/
def Evaluator.description (evaluator : Evaluator) : String :=
  evaluator.scheme.name ++ "(region=" ++ evaluator.region.text ++ ", position="
    ++ tupleText evaluator.position ++ ")"

end LatticeDiff
