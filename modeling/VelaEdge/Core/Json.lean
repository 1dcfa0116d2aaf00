import VelaEdge.Base.Text

/-! Decoded JSON documents and the numbers in them. Decoding bytes is left to the JSON library;
what the program does with a decoded document is modelled here. -/
namespace VelaEdge.Core

open Base List

/-- A binary64 number as the value it denotes, `mantissa * 2 ^ exponent` when finite. The two
zeros are one value: no modelled operation tells them apart. -/
inductive Binary64 where
  | finite (mantissa exponent : Int)
  | infinite (negative : Bool)
  | nan
deriving DecidableEq

namespace Binary64

def zero : Binary64 := .finite 0 0

def isFinite : Binary64 → Bool
  | .finite _ _ => true
  | _ => false

/-- The IEEE comparison: false as soon as one side is not a number. -/
def le : Binary64 → Binary64 → Bool
  | .nan, _ => false
  | _, .nan => false
  | .infinite true, _ => true
  | _, .infinite false => true
  | .infinite false, _ => false
  | _, .infinite true => false
  | .finite m e, .finite m' e' =>
    -- both sides as multiples of the smaller power of two
    m * ((2 ^ (e - e').toNat : Nat) : Int) ≤ m' * ((2 ^ (e' - e).toNat : Nat) : Int)

def lt (x y : Binary64) : Bool := le x y && !le y x

def eq (x y : Binary64) : Bool := le x y && le y x

/-- Round to 53 significant bits, ties to even. -/
def roundNat (n : Nat) : Nat := if n < 2 ^ 53 then n else
    let unit := 2 ^ (n.log2 - 52)
    let quotient := n / unit
    let remainder := n % unit
    if 2 * remainder > unit ∨ (2 * remainder = unit ∧ quotient % 2 = 1) then
      (quotient + 1) * unit
    else quotient * unit

/-- An integer cast `as f64`. -/
def ofInt : Int → Binary64
  | .ofNat n => .finite (roundNat n) 0
  | .negSucc n => .finite (-(roundNat (n + 1) : Int)) 0

end Binary64

inductive JsonNumber where
  | posInt (value : Nat)
  | negInt (value : Int)
  | float (value : Binary64)
deriving DecidableEq

inductive Json where
  | null
  | bool (value : Bool)
  | number (value : JsonNumber)
  | string (value : String)
  | array (items : List Json)
  | object (fields : List (String × Json))

def JsonNumber.beq : JsonNumber → JsonNumber → Bool
  | .posInt a, .posInt b => a == b
  | .negInt a, .negInt b => a == b
  | .float a, .float b => a.eq b
  | _, _ => false

namespace Json

mutual

/-- The equality of documents: an integer never equals a float. -/
def beq : Json → Json → Bool
  | .null, .null => true
  | .bool a, .bool b => a == b
  | .number a, .number b => a.beq b
  | .string a, .string b => a == b
  | .array a, .array b => beqItems a b
  | .object a, .object b => beqFields a b
  | _, _ => false

def beqItems : List Json → List Json → Bool
  | [], [] => true
  | a :: as, b :: bs => beq a b && beqItems as bs
  | _, _ => false

def beqFields : List (String × Json) → List (String × Json) → Bool
  | [], [] => true
  | (key,a) :: as, (key',b) :: bs => key == key' && beq a b && beqFields as bs
  | _, _ => false

end

mutual

def same : Json → Json → Bool
  | .null, .null => true
  | .bool a, .bool b => a = b
  | .number a, .number b => a = b
  | .string a, .string b => a = b
  | .array a, .array b => sameItems a b
  | .object a, .object b => sameFields a b
  | _, _ => false

def sameItems : List Json → List Json → Bool
  | [], [] => true
  | a :: as, b :: bs => same a b && sameItems as bs
  | _, _ => false

def sameFields : List (String × Json) → List (String × Json) → Bool
  | [], [] => true
  | (key,a) :: as, (key',b) :: bs => key = key' && same a b && sameFields as bs
  | _, _ => false

end

mutual

@[simp] theorem same_iff : (a b : Json) → (same a b = true ↔ a = b)
  | .null, b => by cases b <;> simp [same]
  | .bool a, b => by cases b <;> simp [same]
  | .number a, b => by cases b <;> simp [same]
  | .string a, b => by cases b <;> simp [same]
  | .array a, b => by cases b <;> simp [same,sameItems_iff a]
  | .object a, b => by cases b <;> simp [same,sameFields_iff a]

theorem sameItems_iff : (as bs : List Json) → (sameItems as bs = true ↔ as = bs)
  | [], bs => by cases bs <;> simp [sameItems]
  | a :: as, bs => by cases bs <;> simp [sameItems,same_iff a,sameItems_iff as]

theorem sameFields_iff : (as bs : List (String × Json)) → (sameFields as bs = true ↔ as = bs)
  | [], bs => by cases bs <;> simp [sameFields]
  | (key,a) :: as, bs => by
      cases bs with
      | nil => simp [sameFields]
      | cons b bs => simp [sameFields,Prod.ext_iff,same_iff a,sameFields_iff as]

end

instance : DecidableEq Json := fun a b => decidable_of_iff _ (same_iff a b)

def get (document : Json) (key : String) : Option Json := match document with
  | .object fields => fields.lookup key
  | _ => none

def asStr : Json → Option String
  | .string value => some value
  | _ => none

def asBool : Json → Option Bool
  | .bool value => some value
  | _ => none

def asArray : Json → Option (List Json)
  | .array items => some items
  | _ => none

def asU64 : Json → Option Nat
  | .number (.posInt value) => some value
  | _ => none

def asI64 : Json → Option Int
  | .number (.posInt value) => if value < 2 ^ 63 then some value else none
  | .number (.negInt value) => some value
  | _ => none

def asF64 : Json → Option Binary64
  | .number (.posInt value) => some (.ofInt value)
  | .number (.negInt value) => some (.ofInt value)
  | .number (.float value) => some value
  | _ => none

/-- Put a field into an object, whose fields are kept in the order of their names. -/
def insertField (key : String) (value : Json) : List (String × Json) → List (String × Json)
  | [] => [(key,value)]
  | (name,item) :: fields =>
    if key = name then (key,value) :: fields
    else if key < name then (key,value) :: (name,item) :: fields
    else (name,item) :: insertField key value fields

theorem lookup_insertField (key name : String) (value : Json) (fields : List (String × Json)) :
    (insertField key value fields).lookup name =
      if name = key then some value else fields.lookup name := by
  have hb : ∀ other : String, (name == other) = decide (name = other) := fun other => rfl
  induction fields with
  | nil => by_cases hn : name = key <;> simp [insertField,lookup_cons,hb,hn]
  | cons field fields ih =>
    obtain ⟨other,item⟩ := field
    unfold insertField
    split
    · next heq =>
      subst heq
      by_cases hn : name = key <;> simp [lookup_cons,hb,hn]
    · split
      · by_cases hn : name = key <;> simp [lookup_cons,hb,hn]
      · next hne _ =>
        rw [lookup_cons,lookup_cons,ih]
        by_cases hn : name = key
        · subst hn
          simp [hb,hne]
        · simp [hn]

/-- Follow a dotted path; empty segments are skipped. -/
def valueAt (document : Json) (path : String) : Option Json :=
  ((Text.split '.' path).filter (fun segment => segment ≠ "")).foldlM Json.get document

def stringAt (document : Json) (path : String) : Option String := (document.valueAt path).bind asStr

mutual

/-- The text of a document whose strings need no escapes; floats are left out. -/
def render : Json → String
  | .null => "null"
  | .bool value => if value then "true" else "false"
  | .number (.posInt value) => toString value
  | .number (.negInt value) => toString value
  | .number (.float _) => "null"
  | .string value => "\"" ++ value ++ "\""
  | .array items => "[" ++ ",".intercalate (renderItems items) ++ "]"
  | .object fields => "\x7b" ++ ",".intercalate (renderFields fields) ++ "\x7d"

def renderItems : List Json → List String
  | [] => []
  | item :: items => render item :: renderItems items

def renderFields : List (String × Json) → List String
  | [] => []
  | (key,value) :: fields => ("\"" ++ key ++ "\":" ++ render value) :: renderFields fields

end

end Json

example : (Json.object [("values", .object [("p1", .bool true)])]).valueAt "values..p1"
    = some (.bool true) := by rfl

end VelaEdge.Core
