import Descent.Text.Digit

/-! Values and states of a grammar.

What a grammar finds, and what its caller keeps as state, is a `Value`: a tree of
the kind that JSON can write. Integers live in 64 bits, so arithmetic wraps.
The functions of this file are those that grammars apply to values and states. -/
namespace Descent

/-- Data with the shapes of JSON. The fields of a record are sorted by name. -/
inductive Value where
  | null
  | bool (b : Bool)
  | int (i : Int)
  | str (s : String)
  | array (items : List Value)
  | record (fields : List (String × Value))

namespace Value

instance : Inhabited Value := ⟨null⟩

/-! ### Equality -/

mutual

def same : Value → Value → Bool
  | null, null => true
  | bool a, bool b => a == b
  | int a, int b => a == b
  | str a, str b => a == b
  | array a, array b => sameItems a b
  | record a, record b => sameFields a b
  | _, _ => false

def sameItems : List Value → List Value → Bool
  | [], [] => true
  | a :: as, b :: bs => same a b && sameItems as bs
  | _, _ => false

def sameFields : List (String × Value) → List (String × Value) → Bool
  | [], [] => true
  | (k, a) :: as, (l, b) :: bs => k == l && same a b && sameFields as bs
  | _, _ => false

end

instance : BEq Value := ⟨same⟩

mutual

theorem same_refl : (v : Value) → same v v = true
  | null => rfl
  | bool b => beq_self_eq_true b
  | int i => beq_self_eq_true i
  | str s => beq_self_eq_true s
  | array items => sameItems_refl items
  | record fields => sameFields_refl fields

theorem sameItems_refl : (items : List Value) → sameItems items items = true
  | [] => rfl
  | v :: vs => by rw [sameItems, same_refl v, sameItems_refl vs, Bool.and_self]

theorem sameFields_refl : (fields : List (String × Value)) → sameFields fields fields = true
  | [] => rfl
  | (k, v) :: fields => by
    rw [sameFields, beq_self_eq_true, same_refl v, sameFields_refl fields, Bool.and_self,
      Bool.and_self]

end

/-! ### Integers -/

/-- The integer that 64 bits hold after an overflow. -/
def wrap (i : Int) : Int := i.bmod (Nat.pow 2 64)

/-- The power in 64 bits, with exponents above 64 taken as 64 and negative ones as zero. -/
def power (base exponent : Int) : Int := wrap (Int.pow base (min exponent 64).toNat)

/-- What an arithmetic operator makes of two integers; a quotient goes toward zero,
and a quotient by zero is zero. -/
def arithmetic? : (operator : String) → Int → Int → Option Int
  | "+", a, b => some (wrap (a + b))
  | "-", a, b => some (wrap (a - b))
  | "*", a, b => some (wrap (a * b))
  | "/", a, b => some (if b = 0 then 0 else wrap (a.tdiv b))
  | "^", a, b => some (power a b)
  | _, _, _ => none

/-- An operator between its operands, uncomputed. -/
def operation (operator a b : Value) : Value := array [operator, a, b]

/-- An operator between its operands, computed where it can be. -/
def compute (operator a b : Value) : Value :=
  match operator, a, b with
  | str o, int x, int y => ((arithmetic? o x y).map int).getD (operation operator a b)
  | _, _, _ => operation operator a b

/-! ### Functions of a value -/

def tagged (tag : String) (v : Value) : Value := array [str tag, v]

/-- The size of a string in bytes, or the number of items. -/
def length : Value → Value
  | str s => int s.utf8ByteSize
  | array items => int items.length
  | _ => int 0

/-- The value of decimal digits, if there are some and nothing else. -/
def natural? (digits : Text) : Option Nat :=
  if digits.isEmpty || !digits.all Char.isDigit then none
  else some (Text.decimalValue digits)

/-- A decimal integer of 64 bits with an optional sign. -/
def integer? (s : String) : Option Int :=
  let signed : Option Int := match s.toList with
    | '-' :: digits => (natural? digits).map fun n => -n
    | '+' :: digits => (natural? digits).map Int.ofNat
    | digits => (natural? digits).map Int.ofNat
  signed.filter fun i => wrap i == i

/-- A string read as an integer; zero if it is none. -/
def toInt : Value → Value
  | str s => int ((integer? s).getD 0)
  | _ => int 0

mutual

/-- The strings inside nested arrays, after those in `acc`. -/
def concatFrom (acc : String) : Value → String
  | str s => acc ++ s
  | array items => concatItems acc items
  | _ => acc

def concatItems (acc : String) : List Value → String
  | [] => acc
  | v :: vs => concatItems (concatFrom acc v) vs

end

/-- All strings inside nested arrays, joined. -/
def concat (v : Value) : Value := str (concatFrom "" v)

def increment : Value → Value
  | int i => int (wrap (i + 1))
  | _ => int 1

def negate : Value → Value
  | int i => int (wrap (-i))
  | _ => int 0

/-- The integer that a value is. -/
def int? : Value → Option Int
  | int i => some i
  | _ => none

/-- One more than the largest integer of an array; one if it has none. -/
def aboveMax : Value → Value
  | array items => int (((items.filterMap int?).max?.map (· + 1)).getD 1)
  | _ => int 1

/-- The string that a value is; the empty one if it is none. -/
def text : Value → String
  | str s => s
  | _ => ""

/-- The natural number that a value is; zero if it is none. -/
def natural : Value → Nat
  | int i => i.toNat
  | _ => 0

/-- The value of the first case with this key. -/
def select {β : Type} (cases : List (Value × β)) (otherwise : β) (v : Value) : β :=
  match cases with
  | [] => otherwise
  | (key, b) :: rest => if v == key then b else select rest otherwise v

/-- Is an integer of at least `n`. -/
def atLeast (n : Int) : Value → Bool
  | int i => n ≤ i
  | _ => false

/-! ### Functions of a state

Each leaves the states that it is not for as they are. -/

def add (n : Int) : Value → Value
  | int i => int (wrap (i + n))
  | v => v

def multiply (n : Int) : Value → Value
  | int i => int (wrap (i * n))
  | v => v

def push (item : Value) : Value → Value
  | array items => array (items ++ [item])
  | v => v

def pop : Value → Value
  | array items => array items.dropLast
  | v => v

end Value

end Descent
