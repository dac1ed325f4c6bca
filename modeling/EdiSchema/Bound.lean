/-!
# Upper bounds

How often something may occur at most. Groups and segments of a grammar have such a bound, and so
have the features of a class. The text of a bound is its decimal digits, or `-1` where there is no
limit; since no digits start with a minus sign, the text determines the bound.
-/

namespace EdiSchema

/-- A limit on the number of occurrences. -/
inductive UpperBound
  /-- At most this many. -/
  | bounded (limit : UInt32)
  /-- Any number. -/
  | unbounded
  deriving DecidableEq, Repr, Inhabited

/-- The decimal digits of a count. -/
def decimal (n : UInt32) : String := Nat.repr n.toNat

namespace UpperBound

def isUnbounded : UpperBound → Bool
  | .bounded _ => false
  | .unbounded => true

/-- Digits, or `-1` where there is no limit. -/
def text : UpperBound → String
  | .bounded limit => decimal limit
  | .unbounded => "-1"

end UpperBound

end EdiSchema
