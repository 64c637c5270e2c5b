import ActionFlow.Value

/-!
# Equality and order of data

Numbers are compared by exact value, whatever their form, and objects irrespective of the
order of their keys. Inside lists and objects a truth value counts as the number zero or
one, and a value that is no number agrees with one found in the same way; on their own,
truth values equal only truth values and `nan` equals nothing. Only two numbers or two
texts have an order, and truth values are no numbers there.
-/

namespace ActionFlow.Value

/-- The place of a number on the line; truth values stand for zero and one. -/
def place? : Value → Option Extent
  | .bool b => some (.ofInt (if b then 1 else 0))
  | .int n => some (.ofInt n)
  | .float x => x.extent?
  | _ => none

mutual

/-- Whether two values agree as parts of larger ones. -/
def agrees : Value → Value → Bool
  | .null, .null => true
  | .text s, .text t => s == t
  | .list xs, .list ys => agreesItems xs ys
  | .object fs, .object gs => fs.length == gs.length && agreesFields fs gs
  | .float (.nan a), .float (.nan b) => a == b
  | v, w =>
    match v.place?, w.place? with
    | some a, some b => a == b
    | _, _ => false

/-- Whether two lists agree item by item. -/
def agreesItems : List Value → List Value → Bool
  | [], [] => true
  | v :: vs, w :: ws => agrees v w && agreesItems vs ws
  | _, _ => false

/-- Whether each field has a counterpart that agrees. -/
def agreesFields : Fields → Fields → Bool
  | [], _ => true
  | (key, v) :: rest, gs =>
    (match Keyed.get? gs key with
      | some w => agrees v w
      | none => false) && agreesFields rest gs

end

/-- Whether a value is a truth value. -/
def isBool : Value → Bool
  | .bool _ => true
  | _ => false

/-- Whether a value is the floating-point number that is no number. -/
def isNaN : Value → Bool
  | .float x => x.isNaN
  | _ => false

/-- Whether two values on their own are equal, truth values counting as numbers. -/
def equals (v w : Value) : Bool := !v.isNaN && agrees v w

/-- Whether two values on their own are equal, truth values being distinct from numbers. -/
def matchesValue (v w : Value) : Bool := v.isBool == w.isBool && equals v w

/-- Whether a value is a number; truth values are none. -/
def isNumber : Value → Bool
  | .int _ => true
  | .float _ => true
  | _ => false

/-- Whether one value lies strictly before another in the order of numbers or of texts. -/
def isBefore (v w : Value) : Bool :=
  match v, w with
  | .text s, .text t => s < t
  | _, _ =>
    v.isNumber && w.isNumber &&
      match v.place?, w.place? with
      | some a, some b => a.lt b
      | _, _ => false

/-- Whether one value lies before another or at the same place. -/
def isBeforeOrAt (v w : Value) : Bool :=
  match v, w with
  | .text s, .text t => s < t || s == t
  | _, _ =>
    v.isNumber && w.isNumber &&
      match v.place?, w.place? with
      | some a, some b => a.le b
      | _, _ => false

end ActionFlow.Value
