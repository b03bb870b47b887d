/-
  LanguageBlueprint/Url/Punycode.lean
  ===================================
  **Punycode.**  A label with characters outside ASCII is written with ASCII
  characters alone: first those that it holds, then for each of the others, in
  ascending order, how far to advance before it is inserted.
-/

namespace LanguageBlueprint

namespace Url

/-! ### Writing Punycode -/

def punycodeDigit (n : Nat) : Char :=
  if n < 26 then Char.ofNat (97 + n) else Char.ofNat (22 + n)

/-- The least digit at a place that ends a number. -/
def punycodeThreshold (k bias : Nat) : Nat := min 26 (max 1 (k - bias))

/-- The digits of a number, with at most `fuel` places. -/
def punycodeNumber (bias : Nat) : Nat → Nat → Nat → List Char
  | 0, _, _ => []
  | fuel + 1, k, q =>
      let t := punycodeThreshold k bias
      if q < t then [punycodeDigit q]
      else punycodeDigit (t + (q - t) % (36 - t)) ::
        punycodeNumber bias fuel (k + 36) ((q - t) / (36 - t))

/-- Divides by 35 until the number is small; the second component counts 36 for each step. -/
def punycodeReduce : Nat → Nat → Nat → Nat × Nat
  | 0, delta, k => (delta, k)
  | fuel + 1, delta, k =>
      if delta > 455 then punycodeReduce fuel (delta / 35) (k + 36) else (delta, k)

def punycodeAdapt (delta count : Nat) (first : Bool) : Nat :=
  let start := if first then delta / 700 else delta / 2
  let (reduced, k) := punycodeReduce 32 (start + start / count) 0
  k + 36 * reduced / (reduced + 38)

/-- Writes the insertions of one code point `n`, going once through the label. -/
def punycodePass (n basic : Nat) : List Nat → (delta bias handled : Nat) →
    List Char × Nat × Nat × Nat
  | [], delta, bias, handled => ([], delta, bias, handled)
  | c :: cs, delta, bias, handled =>
      if c < n then punycodePass n basic cs (delta + 1) bias handled
      else if c = n then
        let digits := punycodeNumber bias 32 36 delta
        let next := punycodeAdapt delta (handled + 1) (handled == basic)
        let (rest, state) := punycodePass n basic cs 0 next (handled + 1)
        (digits ++ rest, state)
      else punycodePass n basic cs delta bias handled

/-- Writes the insertions of the code points in ascending order; `n` is the next one to pass. -/
def punycodePasses (label : List Nat) (basic : Nat) :
    List Nat → (n delta bias handled : Nat) → List Char
  | [], _, _, _, _ => []
  | m :: ms, n, delta, bias, handled =>
      let advanced := delta + (m - n) * (handled + 1)
      let (digits, delta, bias, handled) := punycodePass m basic label advanced bias handled
      digits ++ punycodePasses label basic ms (m + 1) (delta + 1) bias handled

def punycode (label : List Char) : List Char :=
  let ascii := label.filter (fun c => c.toNat < 0x80)
  let codes := label.map Char.toNat
  let others := ((codes.filter (0x80 ≤ ·)).mergeSort (fun a b => decide (a ≤ b))).eraseDups
  ascii ++ (if ascii.isEmpty then [] else ['-']) ++
    punycodePasses codes ascii.length others 128 0 72 ascii.length

/-! ### Reading Punycode -/

def punycodeValue? (c : Char) : Option Nat :=
  if 'a' ≤ c && c ≤ 'z' then some (c.toNat - 97)
  else if '0' ≤ c && c ≤ '9' then some (c.toNat - 22)
  else none

/-- The number at the beginning of a text, added to `i`, and what follows it.  Digits count times
`weight`, which like the number itself has to fit in 32 bits. -/
def punycodeScan (bias : Nat) : (i weight k : Nat) → List Char → Option (Nat × List Char)
  | _, _, _, [] => none
  | i, weight, k, c :: cs => do
      let digit ← punycodeValue? c
      let t := punycodeThreshold k bias
      let i := i + digit * weight
      if UInt32.size ≤ i then none
      else if digit < t then some (i, cs)
      else if UInt32.size ≤ weight * (36 - t) then none
      else punycodeScan bias i (weight * (36 - t)) (k + 36) cs

/-- Inserts the characters that the numbers describe; `fuel` bounds how many there are. -/
def punycodeInsert : Nat → List Nat → (n i bias : Nat) → Bool → List Char → Option (List Nat)
  | _, output, _, _, _, _, [] => some output
  | 0, _, _, _, _, _, _ => none
  | fuel + 1, output, n, i, bias, first, cs => do
      let (j, rest) ← punycodeScan bias i 1 36 cs
      let count := output.length + 1
      let code := n + j / count
      let place := j % count
      if !code.isValidChar then none
      else
        punycodeInsert fuel (output.take place ++ code :: output.drop place) code (place + 1)
          (punycodeAdapt (j - i) count first) false rest

/-- The code points of a label in Punycode; the ASCII characters stand before its last hyphen. -/
def ofPunycode? (cs : List Char) : Option (List Nat) :=
  let reversed := cs.reverse
  let digits := (reversed.takeWhile (· != '-')).reverse
  match reversed.dropWhile (· != '-') with
  | [] => punycodeInsert cs.length [] 128 0 72 true digits
  -- a hyphen in front has no ASCII character before it, and is not written then
  | [_] => none
  | _ :: ascii => punycodeInsert cs.length (ascii.reverse.map Char.toNat) 128 0 72 true digits

end Url

end LanguageBlueprint
