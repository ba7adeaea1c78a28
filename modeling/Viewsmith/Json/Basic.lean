/-!
# JSON values

JSON as read from a text: integers and doubles are told apart, objects keep the order and the
repetitions of their fields.
-/

namespace Viewsmith

/-- A JSON value. -/
inductive Json where
  | null
  | bool (b : Bool)
  /-- A number written without fraction and exponent that fits in 64 bits. -/
  | int (n : Int)
  | float (x : Float)
  | text (s : String)
  | list (items : List Json)
  | object (fields : List (String × Json))
  deriving Inhabited

namespace Json

/-- Why a text could not be read. -/
inductive Fault where
  /-- The text ends too early. -/
  | endOfText
  /-- The text is not JSON, or holds what cannot be held. -/
  | malformed
  /-- The text is JSON of another shape than was asked for. -/
  | shape
  deriving Repr, DecidableEq, Inhabited

/-- The name of the fault. -/
def Fault.category : Fault → String
  | .endOfText => "eof"
  | .malformed => "syntax"
  | .shape => "data"

end Json

end Viewsmith
