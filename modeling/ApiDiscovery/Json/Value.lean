import ApiDiscovery.Json.Double
import ApiDiscovery.Ordered
import ApiDiscovery.Text.Quoted

/-!
# JSON values

Objects keep the order of their members, integers are unbounded and are not doubles. Documents
are untyped, so the accessors say when a value has the wrong shape, and a few operations treat
texts, arrays and objects alike: each has elements, and each may hold a name.
-/

namespace ApiDiscovery

/-- A JSON value; the members of an object are in document order. -/
inductive Json where
  | null
  | bool (value : Bool)
  | int (value : Int)
  | double (value : Double)
  | str (value : String)
  | arr (items : List Json)
  | obj (members : List (String × Json))
  deriving Inhabited, Repr

namespace Json

/-- The members of an object. -/
abbrev Members := Ordered Json

/-- The value of the first member with this key. -/
def lookup (key : String) (members : Members) : Option Json := List.lookup key members

/-- The keys of all members in order. -/
def keys (members : Members) : List String := members.map Prod.fst

/-- The value counts as given: it is neither null, false, zero nor empty. -/
def isGiven : Json → Bool
  | null => false
  | bool b => b
  | int n => n != 0
  | double x => x.magnitude != 0
  | str s => s != ""
  | arr xs => !xs.isEmpty
  | obj ms => !ms.isEmpty

/-! ## Equality -/

/-- A number or truth value as an exact ratio with a positive denominator. -/
def exactRatio? : Json → Option (Int × Nat)
  | bool b => some (if b then 1 else 0, 1)
  | int n => some (n, 1)
  | double x =>
    if x.isFinite then
      let (num, den) := x.ratio
      some (if x.negative then -Int.ofNat num else Int.ofNat num, den)
    else none
  | _ => none

/-- The two scalars are the same number: truth values count as zero and one, an integer is equal to
the double of the same value, and the undefined number is one value. -/
def sameNumber (a b : Json) : Bool :=
  match a, b with
  | double x, double y => x == y || x.magnitude == 0 && y.magnitude == 0
  | _, _ =>
    match exactRatio? a, exactRatio? b with
    | some (m, d), some (n, e) => m * Int.ofNat e == n * Int.ofNat d
    | _, _ => false

/-- The two scalars are equal as keys. -/
def sameKey (a b : Json) : Bool :=
  match a, b with
  | null, null => true
  | str s, str t => s == t
  | _, _ => sameNumber a b

/-- The value is a text. -/
def isText : Json → Bool
  | str _ => true
  | _ => false

/-- The value can be a key: it is no array and no object. -/
def isScalar : Json → Bool
  | arr _ => false
  | obj _ => false
  | _ => true

mutual

/-- The values are equal; the order of members does not count. -/
def same : Json → Json → Bool
  | arr xs, arr ys => sameItems xs ys
  | obj ms, obj ns => ms.length == ns.length && sameMembers ms ns
  | a, b => sameKey a b

/-- The arrays are equal item by item. -/
def sameItems : List Json → List Json → Bool
  | [], [] => true
  | x :: xs, y :: ys => same x y && sameItems xs ys
  | _, _ => false

/-- Every member of the first list has an equal one in the second. -/
def sameMembers : List (String × Json) → List (String × Json) → Bool
  | [], _ => true
  | (k, v) :: rest, ns =>
    (match lookup k ns with
      | some w => same v w
      | none => false) && sameMembers rest ns

end

/-! ## Sums -/

/-- A number or truth value as a whole number. -/
def whole? : Json → Option Int
  | bool b => some (if b then 1 else 0)
  | int n => some n
  | _ => none

/-- A number or truth value as a double. -/
def toDouble? : Json → Option Double
  | double x => some x
  | v => v.whole?.map Double.ofInt

/-- The value is an integer beyond every finite double. -/
def isBeyondDoubles (a : Json) : Bool := a.whole?.any fun n => !(Double.ofInt n).isFinite

/-- The sum of two numbers or truth values; a double makes it a double. -/
def sum? (a b : Json) : Option Json :=
  match a.whole?, b.whole? with
  | some m, some n => some (int (m + n))
  | _, _ =>
    match a.toDouble?, b.toDouble? with
    | some x, some y => some (double (x.add y))
    | _, _ => none

/-! ## Text -/

mutual

/-- The value as it is written in a source literal on one line. -/
def literal : Json → String
  | null => "None"
  | bool b => if b then "True" else "False"
  | int n => toString n
  | double x => x.toText
  | str s => Text.quoted s
  | arr xs => "[" ++ literalItems xs ++ "]"
  | obj ms => "\x7b" ++ literalMembers ms ++ "\x7d"

/-- The literals of the items with commas between them. -/
def literalItems : List Json → String
  | [] => ""
  | [x] => literal x
  | x :: rest => literal x ++ ", " ++ literalItems rest

/-- The literals of the members with commas between them. -/
def literalMembers : List (String × Json) → String
  | [] => ""
  | [(k, v)] => Text.quoted k ++ ": " ++ literal v
  | (k, v) :: rest => Text.quoted k ++ ": " ++ literal v ++ ", " ++ literalMembers rest

end

/-- The value as running text: a text stands for itself, all else is written as a literal. -/
def display : Json → String
  | str s => s
  | v => literal v

/-- The value as a parameter on the wire: truth values in lower case, the items of an array
joined by commas, all else as running text. -/
def wireText : Json → String
  | bool b => if b then "true" else "false"
  | arr xs => wireItems xs
  | v => display v
where
  /-- The wire texts of the items joined by commas. -/
  wireItems : List Json → String
    | [] => ""
    | [x] => wireText x
    | x :: rest => wireText x ++ "," ++ wireItems rest

end Json
end ApiDiscovery
