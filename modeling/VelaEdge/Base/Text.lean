import Mathlib.Data.List.DropRight
import Mathlib.Data.String.Basic

/-! Text as storage keys and wire fields see it: prefixes, whitespace, substitution and
zero-padded decimals under the lexicographic order. -/
namespace VelaEdge.Base.Text

open List

/-- The Unicode `White_Space` property. -/
def isWhitespace (c : Char) : Bool := let code := c.toNat
  (9 ≤ code && code ≤ 13) || code == 0x20 || code == 0x85 || code == 0xA0 || code == 0x1680 ||
    (0x2000 ≤ code && code ≤ 0x200A) || code == 0x2028 || code == 0x2029 || code == 0x202F ||
    code == 0x205F || code == 0x3000

variable (text : String)

def trim : String :=
  String.ofList ((text.toList.dropWhile isWhitespace).reverse.dropWhile isWhitespace).reverse

def isBlank : Bool := text.toList.all isWhitespace

def hasPrefix (start text : String) : Bool := start.toList.isPrefixOf text.toList

/-- Cut at every occurrence of a separator; the pieces between two separators may be empty. -/
def splitChars (separator : Char) : List Char → List (List Char)
  | [] => [[]]
  | c :: rest =>
    if c = separator then [] :: splitChars separator rest
    else
      match splitChars separator rest with
      | [] => [[c]]
      | piece :: pieces => (c :: piece) :: pieces

def split (separator : Char) (text : String) : List String :=
  (splitChars separator text.toList).map String.ofList

/-- The text before and after the first occurrence of a nonempty pattern. -/
def splitOnceChars (pattern : List Char) : List Char → Option (List Char × List Char)
  | [] => none
  | c :: rest =>
    if pattern.isPrefixOf (c :: rest) then some ([],(c :: rest).drop pattern.length)
    else (splitOnceChars pattern rest).map fun (before,after) => (c :: before,after)

def splitOnce (pattern text : String) : Option (String × String) :=
  (splitOnceChars pattern.toList text.toList).map fun (before,after) =>
    (String.ofList before,String.ofList after)

def rsplitOnce (separator : Char) (text : String) : Option (String × String) :=
  (splitOnceChars [separator] text.toList.reverse).map fun (after,before) =>
    (String.ofList before.reverse,String.ofList after.reverse)

def toAsciiLowercase : String := String.ofList (text.toList.map Char.toLower)

/-- An unsigned decimal number below a bound, with an optional plus sign. -/
def parseBelow (bound : Nat) (text : String) : Option Nat :=
  let digits : List Char := match text.toList with
    | '+' :: rest => rest
    | chars => chars
  let value : Nat := digits.foldl (fun value c => 10 * value + (c.toNat - '0'.toNat)) 0
  if digits ≠ [] ∧ digits.all Char.isDigit = true ∧ value < bound then some value else none

/-- Replace non-overlapping occurrences of a nonempty pattern from the left. The fuel is the
length of the text: each step consumes at least one character. -/
def replaceChars (pattern replacement : List Char) : Nat → List Char → List Char
  | 0, text => text
  | _ + 1, [] => []
  | fuel + 1, c :: rest =>
    if pattern.isPrefixOf (c :: rest) then
      replacement ++ replaceChars pattern replacement fuel ((c :: rest).drop pattern.length)
    else c :: replaceChars pattern replacement fuel rest

def replace (text pattern replacement : String) : String := String.ofList
    (replaceChars pattern.toList replacement.toList text.length text.toList)

/-- Decimal digits, filled with zeros on the left up to a width. -/
def padded (width value : Nat) : String := let digits := Nat.toDigits 10 value
  String.ofList (replicate (width - digits.length) '0' ++ digits)

private theorem dropWhile_rdropWhile (test : Char → Bool) (chars : List Char) :
    ((chars.dropWhile test).rdropWhile test).dropWhile test =
      (chars.dropWhile test).rdropWhile test := by
  obtain ⟨rest,hr⟩ := rdropWhile_prefix test (chars.dropWhile test)
  cases hk : (chars.dropWhile test).rdropWhile test with
  | nil => rfl
  | cons first kept =>
    -- The first character stands at the front of what `dropWhile` has left.
    have hf : ((first :: kept) ++ rest).dropWhile test = (first :: kept) ++ rest := by
      rw [← hk,hr,dropWhile_idempotent]
    rw [dropWhile_eq_self_iff] at hf ⊢
    intro hp
    exact hf (Nat.succ_pos _)

@[simp] theorem trim_trim : trim (trim text) = trim text := by
  have hk : (trim text).toList = (text.toList.dropWhile isWhitespace).rdropWhile isWhitespace := by
    rw [trim,String.toList_ofList,rdropWhile]
  have ht : trim (trim text) =
      String.ofList (((trim text).toList.dropWhile isWhitespace).rdropWhile isWhitespace) := rfl
  rw [ht,hk,dropWhile_rdropWhile,rdropWhile_idempotent,← hk,String.ofList_toList]

theorem splitOnceChars_eq_some {text before after : List Char}
    (h : splitOnceChars pattern text = some (before,after)) :
    text = before ++ pattern ++ after := by
  induction text generalizing before after with
  | nil => cases h
  | cons c rest ih =>
    rw [splitOnceChars] at h
    split at h
    · next hp =>
      cases h
      obtain ⟨tail,ht⟩ := isPrefixOf_iff_prefix.mp hp
      rw [← ht]
      simp
    · rw [Option.map_eq_some_iff] at h
      obtain ⟨⟨first,last⟩,hs,heq⟩ := h
      cases heq
      rw [ih hs]
      rfl

theorem rsplitOnce_eq_some {text before after : String}
    (h : rsplitOnce sep text = some (before,after)) :
    text = before ++ String.singleton sep ++ after := by
  rw [rsplitOnce,Option.map_eq_some_iff] at h
  obtain ⟨⟨first,last⟩,hs,heq⟩ := h
  cases heq
  have hr := congrArg reverse (splitOnceChars_eq_some hs)
  rw [reverse_reverse] at hr
  rw [← String.toList_inj,hr]
  simp

theorem parseBelow_toDigits (h : number < bound) :
    parseBelow bound (String.ofList (Nat.toDigits 10 number)) = some number := by
  have hd : ∀ c ∈ Nat.toDigits 10 number, c.isDigit = true := fun c hc =>
    Nat.isDigit_of_mem_toDigits (by decide) (by decide) hc
  have hv := Nat.ofDigitChars_toDigits (b := 10) (n := number) (by decide) (by decide)
  rw [Nat.ofDigitChars] at hv
  cases hc : Nat.toDigits 10 number with
  | nil => exact absurd hc Nat.toDigits_ne_nil
  | cons first rest =>
    have hf : first ≠ '+' := by
      rintro rfl
      exact absurd (hd '+' (hc ▸ mem_cons_self)) (by decide)
    rw [hc] at hd hv
    simp only [parseBelow,String.toList_ofList]
    split
    · next heq => exact absurd (cons.inj heq).1 hf
    · rw [hv,if_pos ⟨cons_ne_nil _ _,all_eq_true.mpr hd,h⟩]

theorem splitOnceChars_toDigits (number : Nat) (rest : List Char) :
    splitOnceChars ['.'] (Nat.toDigits 10 number ++ '.' :: rest) =
      some (Nat.toDigits 10 number,rest) := by
  have hd : ∀ c ∈ Nat.toDigits 10 number, c ≠ '.' := by
    rintro c hc rfl
    exact absurd (Nat.isDigit_of_mem_toDigits (by decide) (by decide) hc) (by decide)
  generalize Nat.toDigits 10 number = digits at hd
  induction digits with
  | nil => simp [splitOnceChars]
  | cons c digits ih =>
    have hc : ¬ '.' = c := fun h => hd c mem_cons_self h.symm
    simp [splitOnceChars,hc,ih fun c h => hd c (mem_cons_of_mem _ h)]

theorem hasPrefix_iff (start text : String) :
    hasPrefix start text = true ↔ ∃ rest, start ++ rest = text := by
  rw [hasPrefix, isPrefixOf_iff_prefix]
  constructor
  · rintro ⟨rest,hr⟩
    exact ⟨String.ofList rest,by rw [← String.toList_inj,String.toList_append,
      String.toList_ofList,hr]⟩
  · rintro ⟨rest,rfl⟩
    exact ⟨rest.toList,by rw [String.toList_append]⟩

@[simp] theorem hasPrefix_append (start rest : String) : hasPrefix start (start ++ rest) = true :=
  (hasPrefix_iff start _).mpr ⟨rest,rfl⟩

variable {start text : String}

theorem hasPrefix_trans (h : hasPrefix start middle = true) (ht : hasPrefix middle text = true) :
    hasPrefix start text = true := by
  unfold hasPrefix at *
  rw [ isPrefixOf_iff_prefix] at *
  exact h.trans ht

theorem hasPrefix_disjoint {start other text : String} (ht : hasPrefix start text = true)
    (hl : hasPrefix start other = false) (hr : hasPrefix other start = false) :
    hasPrefix other text = false := by
  by_contra hother
  unfold hasPrefix at *
  rw [Bool.not_eq_false, isPrefixOf_iff_prefix] at hother
  rw [ isPrefixOf_iff_prefix] at ht
  rcases prefix_or_prefix_of_prefix ht hother with h | h
  · rw [← isPrefixOf_iff_prefix,hl] at h
    cases h
  · rw [← isPrefixOf_iff_prefix,hr] at h
    cases h

private theorem append_cons_inj (hl : sep ∉ left) (hr : sep ∉ right)
    (h : left ++ sep :: leftRest = right ++ sep :: rightRest) :
    left = right ∧ leftRest = rightRest := by
  induction left generalizing right with
  | nil =>
    cases right with
    | nil => simpa using h
    | cons d right =>
      rw [nil_append,cons_append,cons.injEq] at h
      exact absurd (h.1 ▸ mem_cons_self) hr
  | cons c left ih =>
    cases right with
    | nil =>
      rw [nil_append,cons_append,cons.injEq] at h
      exact absurd (h.1 ▸ mem_cons_self) hl
    | cons d right =>
      rw [cons_append,cons_append,cons.injEq] at h
      obtain ⟨rfl,hre⟩ := ih (not_mem_of_not_mem_cons hl) (not_mem_of_not_mem_cons hr) h.2
      exact ⟨by rw [h.1],hre⟩

theorem separated_inj {mark left right : String} (hm : mark.toList = [sep])
    (hl : sep ∉ left.toList) (hr : sep ∉ right.toList)
    (h : left ++ mark ++ leftRest = right ++ mark ++ rightRest) :
    left = right ∧ leftRest = rightRest := by
  simp only [← String.toList_inj,String.toList_append,hm,append_assoc,singleton_append] at h ⊢
  exact append_cons_inj hl hr h

private theorem append_lt_of_not_prefix {start text : List Char} (hle : ¬ text < start)
    (hs : ¬ start <+: text) (rest : List Char) : start ++ rest < text := by
  induction start generalizing text with
  | nil => exact absurd ⟨text,rfl⟩ hs
  | cons c start ih =>
    cases text with
    | nil => exact absurd (nil_lt_cons c start) hle
    | cons d text =>
      rw [cons_append,cons_lt_cons_iff]
      rw [cons_lt_cons_iff,not_or] at hle
      by_cases heq : c = d
      · subst heq
        refine .inr ⟨rfl,ih (fun hlt => hle.2 ⟨rfl,hlt⟩) fun h => hs ?_⟩
        exact (prefix_cons_inj c).mpr h
      · exact .inl (lt_of_le_of_ne (not_lt.mp hle.1) heq)

private theorem append_not_lt (start rest : List Char) : ¬ start ++ rest < start := by
  induction start with
  | nil => exact not_lt_nil _
  | cons c start ih =>
    rw [cons_append,cons_lt_cons_iff,not_or]
    exact ⟨lt_irrefl c,fun h => ih h.2⟩

theorem le_of_hasPrefix (h : hasPrefix start text = true) : start ≤ text := by
  obtain ⟨rest,rfl⟩ := (hasPrefix_iff start text).mp h
  rw [String.le_iff_toList_le,String.toList_append,← not_lt]
  exact append_not_lt start.toList rest.toList

theorem hasPrefix_convex {start text later : String} (hle : start ≤ text)
    (ho : hasPrefix start text = false) (hlt : text < later) : hasPrefix start later = false := by
  by_contra hin
  obtain ⟨rest,rfl⟩ := (hasPrefix_iff start later).mp (by simpa using hin)
  have hs : ¬ start.toList <+: text.toList := by
    rw [← isPrefixOf_iff_prefix,Bool.not_eq_true]
    exact ho
  have hb := append_lt_of_not_prefix
    (fun h => not_lt.mpr hle (String.lt_iff_toList_lt.mpr h)) hs rest.toList
  rw [← String.toList_append,← String.lt_iff_toList_lt] at hb
  exact lt_asymm hlt hb

private theorem append_lt_append {left right : List Char} (hl : left.length = right.length)
    (hlt : left < right) (x y : List Char) : left ++ x < right ++ y := by
  induction left generalizing right with
  | nil =>
    rw [length_nil,eq_comm,length_eq_zero_iff] at hl
    subst hl
    exact absurd hlt (lt_irrefl [])
  | cons c left ih =>
    cases right with
    | nil => simp at hl
    | cons d right =>
      rw [cons_lt_cons_iff] at hlt
      rw [cons_append,cons_append,cons_lt_cons_iff]
      exact hlt.imp id fun h => ⟨h.1,ih (by simpa using hl) h.2⟩

theorem append_lt_append_left (start : String) (h : left < right) :
    start ++ left < start ++ right := by
  rw [String.lt_iff_toList_lt] at *
  rw [String.toList_append,String.toList_append]
  exact append_left_lt h

@[simp] theorem append_le_append_left_iff (start left right : String) :
    start ++ left ≤ start ++ right ↔ left ≤ right := by
  constructor
  · intro h
    by_contra hlt
    exact not_lt.mpr h (append_lt_append_left start (not_le.mp hlt))
  · intro h
    rcases lt_or_eq_of_le h with hlt | rfl
    · exact (append_lt_append_left start hlt).le
    · exact le_refl _

private def fixedDigits : Nat → Nat → List Char
  | 0, _ => []
  | width + 1, value => fixedDigits width (value / 10) ++ [Nat.digitChar (value % 10)]

private theorem fixedDigits_length (width value : Nat) :
    (fixedDigits width value).length = width := by
  induction width generalizing value with
  | zero => rfl
  | succ width ih => simp [fixedDigits,ih]

private theorem fixedDigits_zero (width : Nat) : fixedDigits width 0 = replicate width '0' := by
  induction width with
  | zero => rfl
  | succ width ih =>
    rw [fixedDigits,Nat.zero_div,ih,replicate_succ']
    rfl

private theorem padded_eq_fixedDigits (width value : Nat) (h : value < 10 ^ (width + 1)) :
    (padded (width + 1) value).toList = fixedDigits (width + 1) value := by
  rw [padded,String.toList_ofList]
  induction width generalizing value with
  | zero =>
    rw [Nat.toDigits_of_lt_base (by simpa using h)]
    simp [fixedDigits,Nat.mod_eq_of_lt (by simpa using h : value < 10)]
  | succ width ih =>
    rw [fixedDigits]
    by_cases hs : value < 10
    · rw [Nat.toDigits_of_lt_base hs,Nat.div_eq_of_lt hs,Nat.mod_eq_of_lt hs,fixedDigits_zero]
      simp
    · rw [Nat.toDigits_of_base_le (by omega) (by omega),← ih (value / 10) (by
        rw [pow_succ] at h
        omega)]
      simp [append_assoc]

private theorem digitChar_lt (hlt : left < right) (hr : right < 10) :
    Nat.digitChar left < Nat.digitChar right := by
  have ha : ∀ larger : Fin 10, ∀ smaller : Fin 10, smaller < larger →
      Nat.digitChar smaller.val < Nat.digitChar larger.val := by decide
  exact ha ⟨right,hr⟩ ⟨left,hlt.trans hr⟩ hlt

private theorem fixedDigits_lt (width : Nat) (hlt : left < right) (hr : right < 10 ^ width) :
    fixedDigits width left < fixedDigits width right := by
  induction width generalizing left right with
  | zero => omega
  | succ width ih =>
    rw [fixedDigits,fixedDigits]
    by_cases hd : left / 10 < right / 10
    · refine append_lt_append (by rw [fixedDigits_length,fixedDigits_length]) (ih hd ?_) _ _
      rw [pow_succ] at hr
      omega
    · have heq : left / 10 = right / 10 := by omega
      rw [heq]
      apply append_left_lt
      rw [cons_lt_cons_iff]
      exact .inl (digitChar_lt (by omega) (Nat.mod_lt _ (by omega)))

theorem padded_lt (width : Nat) (hlt : left < right) (hr : right < 10 ^ width) :
    padded width left < padded width right := by
  cases width with
  | zero => omega
  | succ width =>
    rw [String.lt_iff_toList_lt,padded_eq_fixedDigits width left (by omega),
      padded_eq_fixedDigits width right hr]
    exact fixedDigits_lt (width + 1) hlt hr

example : padded 20 42 = "00000000000000000042" := by decide

end VelaEdge.Base.Text
