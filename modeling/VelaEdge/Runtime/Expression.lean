import VelaEdge.Base.Outcome
import VelaEdge.Core.Config

/-! Arithmetic expressions over named values. The parser computes the value while it reads. -/
namespace VelaEdge.Runtime.Expression

open Base Core List

/-- The operations on binary64 numbers, and the numbers that literals denote. -/
structure Arithmetic where
  add : Binary64 → Binary64 → Binary64
  sub : Binary64 → Binary64 → Binary64
  mul : Binary64 → Binary64 → Binary64
  div : Binary64 → Binary64 → Binary64
  neg : Binary64 → Binary64
  abs : Binary64 → Binary64
  round : Binary64 → Binary64
  floor : Binary64 → Binary64
  ceil : Binary64 → Binary64
  sqrt : Binary64 → Binary64
  min : Binary64 → Binary64 → Binary64
  max : Binary64 → Binary64 → Binary64
  powf : Binary64 → Binary64 → Binary64
  parse : String → Option Binary64

def aligned (combine : Int → Int → Int) : Binary64 → Binary64 → Binary64
  | .finite m e, .finite m' e' =>
    .finite (combine (m * ((2 ^ (e - e').toNat : Nat) : Int))
      (m' * ((2 ^ (e' - e).toNat : Nat) : Int))) (min e e')
  | _, _ => .nan

/-- Arithmetic on integers and binary fractions, as far as nothing has to be rounded. -/
def Arithmetic.exact : Arithmetic where
  add := aligned (· + ·)
  sub := aligned (· - ·)
  mul := fun x y =>
    match x, y with
    | .finite m e, .finite m' e' => .finite (m * m') (e + e')
    | _, _ => .nan
  div := fun x y =>
    match x, y with
    | .finite m e, .finite m' e' => if m' ∣ m then .finite (m / m') (e - e') else .nan
    | _, _ => .nan
  neg := aligned (fun _ m => -m) .zero
  abs := aligned (fun _ m => m.natAbs) .zero
  round := id
  floor := id
  ceil := id
  sqrt := fun x => if x.eq .zero then x else .nan
  min := fun x y => if x.le y then x else y
  max := fun x y => if x.le y then y else x
  powf := fun x y => if y.eq .zero then .finite 1 0 else x
  parse := fun literal => literal.toNat?.map fun value => .ofInt value

inductive Failure where
  | invalid (message : String)
  /-- The parser was not given enough fuel. -/
  | exhausted
deriving DecidableEq

def skipWhitespace (input : List Char) : List Char := input.dropWhile Text.isWhitespace

def isNumberChar (c : Char) : Bool :=
  c.isDigit || c = '.' || c = 'e' || c = 'E' || c = '+' || c = '-'

/-- The characters of a literal and the rest. A sign ends the literal unless it follows an
exponent mark. -/
def spanNumber : Option Char → List Char → List Char × List Char
  | _, [] => ([],[])
  | previous, c :: rest =>
    if isNumberChar c &&
        !((c = '+' || c = '-') && previous.any fun mark => mark ≠ 'e' && mark ≠ 'E') then
      (c :: (spanNumber (some c) rest).1,(spanNumber (some c) rest).2)
    else ([],c :: rest)

def isIdentifierChar (c : Char) : Bool := c.isAlphanum || c = '_'

section Parser

variable (arithmetic : Arithmetic) (values : String → Option Binary64)

def parseNumber (input : List Char) : Except Failure (Binary64 × List Char) :=
  let literal := String.ofList (spanNumber none input).1
  match arithmetic.parse literal with
  | some value => .ok (value,(spanNumber none input).2)
  | none => .error (.invalid s!"invalid numeric literal `{literal}`")

def parseIdentifier (input : List Char) : Except Failure (String × List Char) :=
  if input.takeWhile isIdentifierChar = [] then
    .error (.invalid "expected expression value")
  else .ok (String.ofList (input.takeWhile isIdentifierChar),input.dropWhile isIdentifierChar)

def applyFunction (identifier : String) (first : Binary64) (second : Option Binary64) :
    Except Failure Binary64 :=
  let unsupported : Except Failure Binary64 :=
    .error (.invalid s!"unsupported expression function `{identifier}`")
  match second with
  | none =>
    match identifier with
    | "abs" => .ok (arithmetic.abs first)
    | "round" => .ok (arithmetic.round first)
    | "floor" => .ok (arithmetic.floor first)
    | "ceil" => .ok (arithmetic.ceil first)
    | "sqrt" => if Binary64.zero.le first then .ok (arithmetic.sqrt first) else unsupported
    | _ => unsupported
  | some second =>
    match identifier with
    | "min" => .ok (arithmetic.min first second)
    | "max" => .ok (arithmetic.max first second)
    | "pow" => .ok (arithmetic.powf first second)
    | _ => unsupported

def divide (value divisor : Binary64) : Except Failure Binary64 :=
  if divisor.eq .zero then .error (.invalid "expression division by zero")
  else .ok (arithmetic.div value divisor)

def numericAlias (identifier : String) : Except Failure Binary64 := match values identifier with
  | some value => .ok value
  | none =>
    .error (.invalid s!"expression references missing numeric alias `{identifier}`")

def secondArgument (parse : List Char → Except Failure (Binary64 × List Char))
    (input : List Char) : Except Failure (Option Binary64 × List Char) :=
  match skipWhitespace input with
  | ',' :: rest => do
      let (second,rest) ← parse rest
      pure (some second,rest)
  | rest => pure (none,rest)

def closing (message : String) (value : Binary64) (input : List Char) :
    Except Failure (Binary64 × List Char) :=
  match skipWhitespace input with
  | ')' :: rest => .ok (value,rest)
  | _ => .error (.invalid message)

mutual

def parseExpression : Nat → List Char → Except Failure (Binary64 × List Char)
  | 0, _ => .error .exhausted
  | fuel + 1, input => do
      let (value,rest) ← parseTerm fuel input
      parseSum fuel value rest

def parseSum : Nat → Binary64 → List Char → Except Failure (Binary64 × List Char)
  | 0, _, _ => .error .exhausted
  | fuel + 1, value, input =>
    match skipWhitespace input with
    | '+' :: rest => do
        let (term,rest) ← parseTerm fuel rest
        parseSum fuel (arithmetic.add value term) rest
    | '-' :: rest => do
        let (term,rest) ← parseTerm fuel rest
        parseSum fuel (arithmetic.sub value term) rest
    | rest => .ok (value,rest)

def parseTerm : Nat → List Char → Except Failure (Binary64 × List Char)
  | 0, _ => .error .exhausted
  | fuel + 1, input => do
      let (value,rest) ← parseFactor fuel input
      parseProduct fuel value rest

def parseProduct : Nat → Binary64 → List Char → Except Failure (Binary64 × List Char)
  | 0, _, _ => .error .exhausted
  | fuel + 1, value, input =>
    match skipWhitespace input with
    | '*' :: rest => do
        let (factor,rest) ← parseFactor fuel rest
        parseProduct fuel (arithmetic.mul value factor) rest
    | '/' :: rest => do
        let (divisor,rest) ← parseFactor fuel rest
        let quotient ← divide arithmetic value divisor
        parseProduct fuel quotient rest
    | rest => .ok (value,rest)

def parseFactor : Nat → List Char → Except Failure (Binary64 × List Char)
  | 0, _ => .error .exhausted
  | fuel + 1, input =>
    match skipWhitespace input with
    | '-' :: rest => do
        let (value,rest) ← parseFactor fuel rest
        .ok (arithmetic.neg value,rest)
    | '(' :: rest => do
        let (value,rest) ← parseExpression fuel rest
        closing "expression is missing `)`" value rest
    | input =>
      if input.head?.any fun c => c.isDigit || c = '.' then parseNumber arithmetic input
      else do
        let (identifier,rest) ← parseIdentifier input
        match skipWhitespace rest with
        | '(' :: rest => do
            let (first,rest) ← parseExpression fuel rest
            let (second,rest) ← secondArgument (parseExpression fuel) rest
            let (first,rest) ← closing s!"function {identifier} is missing `)`" first rest
            let value ← applyFunction arithmetic identifier first second
            .ok (value,rest)
        | rest => do
            let value ← numericAlias values identifier
            .ok (value,rest)

end

/-- Every level of the grammar costs one unit of fuel, and a round through the three of them reads
a character. -/
def evaluateExpression (expr : String) : Except Failure Binary64 := do
  let (value,rest) ← parseExpression arithmetic values (3 * expr.length + 3) expr.toList
  match skipWhitespace rest with
  | [] => .ok value
  | rest => .error (.invalid s!"unexpected expression token near `{String.ofList rest}`")

end Parser

/-! ## Enough fuel -/

/-- The parser has not run out of fuel, and it leaves fewer characters than `bound`. -/
def Within {α : Type} (bound : Nat) : Except Failure (α × List Char) → Prop
  | .ok (_,rest) => rest.length < bound
  | .error (.invalid _) => True
  | .error .exhausted => False

section Fuel

variable {α β : Type} {arithmetic : Arithmetic} {values : String → Option Binary64}

theorem Within.mono {out : Except Failure (α × List Char)} (h : Within bound out)
    (hle : bound ≤ larger) : Within larger out := by
  cases out with
  | ok res => exact Nat.lt_of_lt_of_le h hle
  | error failure => cases failure <;> exact h

theorem Within.bind {next : α × List Char → Except Failure (β × List Char)} (h : Within bound first)
    (hn : ∀ value rest, rest.length < bound → Within last (next (value,rest))) :
    Within last (first >>= next) := by
  cases first with
  | ok res => exact hn res.1 res.2 h
  | error failure => cases failure <;> exact h

theorem Within.bind_value {next : α → Except Failure (β × List Char)}
    (h : first ≠ .error .exhausted) (hn : ∀ value, Within last (next value)) :
    Within last (first >>= next) := by
  cases first with
  | ok value => exact hn value
  | error failure =>
    cases failure with
    | invalid msg => trivial
    | exhausted => exact absurd rfl h

theorem length_skipWhitespace_le (input : List Char) :
    (skipWhitespace input).length ≤ input.length :=
  (dropWhile_sublist _).length_le

theorem length_of_skipWhitespace (h : skipWhitespace input = c :: rest) :
    rest.length < input.length := by
  have hle := length_skipWhitespace_le input
  simp only [h,length_cons] at hle
  omega

private theorem length_spanNumber_le (prev : Option Char) (input : List Char) :
    (spanNumber prev input).2.length ≤ input.length := by
  induction input generalizing prev with
  | nil => simp [spanNumber]
  | cons c rest ih =>
    rw [spanNumber]
    split
    · exact Nat.le_succ_of_le (ih (some c))
    · exact Nat.le_refl _

theorem parseNumber_within {input : List Char}
    (h : (input.head?.any fun c => c.isDigit || c = '.') = true) :
    Within input.length (parseNumber arithmetic input) := by
  cases input with
  | nil => cases h
  | cons c rest =>
    have hs : (c = '+' || c = '-') = false := by
      by_contra hs
      simp only [Bool.not_eq_false,Bool.or_eq_true,decide_eq_true_eq] at hs
      rcases hs with rfl | rfl <;> simp at h
    have hn : isNumberChar c = true := by
      simp only [List.head?_cons,Option.any_some,Bool.or_eq_true] at h
      simp only [isNumberChar,Bool.or_eq_true]
      tauto
    have hr : (spanNumber none (c :: rest)).2.length < (c :: rest).length := by
      simp only [spanNumber,hn,Option.any_none,Bool.and_false,Bool.not_false,
        Bool.and_self,if_true,length_cons]
      exact Nat.lt_succ_of_le (length_spanNumber_le _ _)
    unfold parseNumber
    dsimp only
    split
    · exact hr
    · trivial

theorem parseIdentifier_within (input : List Char) :
    Within input.length (parseIdentifier input) := by
  unfold parseIdentifier
  split
  · trivial
  · next hs =>
    cases input with
    | nil => exact absurd rfl hs
    | cons c rest =>
      by_cases hc : isIdentifierChar c = true
      · simp only [Within,dropWhile_cons_of_pos hc,length_cons]
        exact Nat.lt_succ_of_le (dropWhile_sublist _).length_le
      · exact absurd (takeWhile_cons_of_neg hc) hs

variable (identifier : String)

theorem applyFunction_ne_exhausted (first : Binary64) (second : Option Binary64) :
    applyFunction arithmetic identifier first second ≠ .error .exhausted := by
  unfold applyFunction
  dsimp only
  repeat' split
  all_goals simp

theorem divide_ne_exhausted (value divisor : Binary64) :
    divide arithmetic value divisor ≠ .error .exhausted := by
  unfold divide
  split <;> simp

theorem numericAlias_ne_exhausted : numericAlias values identifier ≠ .error .exhausted := by
  unfold numericAlias
  split <;> simp

theorem closing_within (msg : String) (value : Binary64) (input : List Char) :
    Within input.length (closing msg value input) := by
  unfold closing
  split
  · next rest hr => exact length_of_skipWhitespace hr
  · trivial

variable (arithmetic values) in
structure Fueled (fuel : Nat) : Prop where
  expression : ∀ input : List Char, 3 * input.length + 3 ≤ fuel →
    Within input.length (parseExpression arithmetic values fuel input)
  sum : ∀ value (input : List Char), 3 * input.length + 2 ≤ fuel →
    Within (input.length + 1) (parseSum arithmetic values fuel value input)
  term : ∀ input : List Char, 3 * input.length + 2 ≤ fuel →
    Within input.length (parseTerm arithmetic values fuel input)
  product : ∀ value (input : List Char), 3 * input.length + 1 ≤ fuel →
    Within (input.length + 1) (parseProduct arithmetic values fuel value input)
  factor : ∀ input : List Char, 3 * input.length + 1 ≤ fuel →
    Within input.length (parseFactor arithmetic values fuel input)

variable {fuel : Nat}

section

variable (h : Fueled arithmetic values fuel)

include h

variable (input : List Char)

theorem Fueled.expression_succ (hf : 3 * input.length + 3 ≤ fuel + 1) :
    Within input.length (parseExpression arithmetic values (fuel + 1) input) := by
  rw [parseExpression]
  apply (h.term input (by omega)).bind
  intro value rest hr
  exact (h.sum value rest (by omega)).mono (by omega)

theorem Fueled.term_succ (hf : 3 * input.length + 2 ≤ fuel + 1) :
    Within input.length (parseTerm arithmetic values (fuel + 1) input) := by
  rw [parseTerm]
  apply (h.factor input (by omega)).bind
  intro value rest hr
  exact (h.product value rest (by omega)).mono (by omega)

theorem Fueled.sum_succ (value : Binary64) (input : List Char)
    (hf : 3 * input.length + 2 ≤ fuel + 1) :
    Within (input.length + 1) (parseSum arithmetic values (fuel + 1) value input) := by
  have hs := length_skipWhitespace_le input
  rw [parseSum]
  split
  · next rest hr =>
    have hl := length_of_skipWhitespace hr
    apply (h.term rest (by omega)).bind
    intro term rest ht
    exact (h.sum _ rest (by omega)).mono (by omega)
  · next rest hr =>
    have hl := length_of_skipWhitespace hr
    apply (h.term rest (by omega)).bind
    intro term rest ht
    exact (h.sum _ rest (by omega)).mono (by omega)
  · exact Nat.lt_succ_of_le hs

theorem Fueled.product_succ (value : Binary64)
    (input : List Char) (hfu : 3 * input.length + 1 ≤ fuel + 1) :
    Within (input.length + 1) (parseProduct arithmetic values (fuel + 1) value input) := by
  have hs := length_skipWhitespace_le input
  rw [parseProduct]
  split
  · next rest hr =>
    have hl := length_of_skipWhitespace hr
    apply (h.factor rest (by omega)).bind
    intro factor rest hf
    exact (h.product _ rest (by omega)).mono (by omega)
  · next rest hr =>
    have hl := length_of_skipWhitespace hr
    apply (h.factor rest (by omega)).bind
    intro divisor rest hd
    apply Within.bind_value (divide_ne_exhausted _ _)
    intro quotient
    exact (h.product _ rest (by omega)).mono (by omega)
  · exact Nat.lt_succ_of_le hs

theorem Fueled.second (hf : 3 * input.length ≤ fuel) :
    Within (input.length + 1) (secondArgument (parseExpression arithmetic values fuel) input) := by
  unfold secondArgument
  split
  · next rest hr =>
    have hl := length_of_skipWhitespace hr
    apply (h.expression rest (by omega)).bind
    intro second rest hs
    exact Nat.lt_of_lt_of_le hs (by omega)
  · exact Nat.lt_succ_of_le (length_skipWhitespace_le input)

theorem Fueled.factor_succ (hfu : 3 * input.length + 1 ≤ fuel + 1) :
    Within input.length (parseFactor arithmetic values (fuel + 1) input) := by
  have hs := length_skipWhitespace_le input
  rw [parseFactor]
  split
  · next rest hr =>
    have hl := length_of_skipWhitespace hr
    apply (h.factor rest (by omega)).bind
    intro value rest hv
    exact Nat.lt_trans hv hl
  · next rest hr =>
    have hl := length_of_skipWhitespace hr
    apply (h.expression rest (by omega)).bind
    intro value rest hv
    exact (closing_within _ _ _).mono (by omega)
  · split
    · next hn => exact (parseNumber_within hn).mono hs
    · apply (parseIdentifier_within _).bind
      intro identifier rest hi
      have haf := length_skipWhitespace_le rest
      dsimp only
      split
      · next args ha =>
        have hl := length_of_skipWhitespace ha
        apply (h.expression args (by omega)).bind
        intro first rest hf
        apply (h.second rest (by omega)).bind
        intro second rest hse
        apply (closing_within _ _ rest).bind
        intro first rest hc
        apply Within.bind_value (applyFunction_ne_exhausted _ _ _)
        intro value
        simp only [Within]
        omega
      · apply Within.bind_value (numericAlias_ne_exhausted _)
        intro value
        simp only [Within]
        omega

end

private theorem fueled (fuel : Nat) : Fueled arithmetic values fuel := by
  induction fuel with
  | zero => constructor <;> intros <;> omega
  | succ fuel ih =>
    exact ⟨ih.expression_succ,ih.sum_succ,ih.term_succ,ih.product_succ,ih.factor_succ⟩

theorem evaluateExpression_ne_exhausted (expr : String) :
    evaluateExpression arithmetic values expr ≠ .error .exhausted := by
  have hf : Fueled arithmetic values (3 * expr.length + 3) := fueled _
  have hw := hf.expression expr.toList (by rw [String.length_toList])
  intro he
  unfold evaluateExpression at he
  cases hp : parseExpression arithmetic values (3 * expr.length + 3) expr.toList with
  | error failure =>
    rw [hp] at hw he
    cases he
    exact hw
  | ok res =>
    rw [hp] at he
    simp only [ok_bind] at he
    split at he <;> cases he

end Fuel

end VelaEdge.Runtime.Expression
