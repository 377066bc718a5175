namespace AsmNotebook
namespace Web
namespace Punycode

/-!
Punycode.  A label is written as its ASCII characters and, behind a hyphen, the
places and values of all others: in the order of their values, each as the
difference to the one before in digits whose weights adapt to what was written.
-/

/-- The digits: letters, then numerals. -/
def digit (n : Nat) : Char :=
  if n < 26 then Char.ofNat (97 + n) else Char.ofNat (22 + n)

/-- The weight at which a digit may be the last one. -/
def threshold (position bias : Nat) : Nat :=
  max 1 (min 26 (position - bias))

/-- A number in digits of weights from 1 to 26. -/
def digits (bias position n : Nat) : List Char :=
  let t := threshold position bias
  if n < t then
    [digit n]
  else
    digit (t + (n - t) % (36 - t)) :: digits bias (position + 36) ((n - t) / (36 - t))
termination_by n
decreasing_by
  have low : 1 ≤ threshold position bias := Nat.le_max_left _ _
  exact Nat.lt_of_le_of_lt (Nat.div_le_self _ _) (by omega)

/-- Divide by 35 until 455 is reached, counting 36 for each division. -/
def damp (delta count : Nat) : Nat × Nat :=
  if 455 < delta then damp (delta / 35) (count + 36) else (delta, count)
termination_by delta
decreasing_by exact Nat.div_lt_self (by omega) (by omega)

/-- The bias after a difference. -/
def adapt (delta written : Nat) (first : Bool) : Nat :=
  let scaled := if first then delta / 700 else delta / 2
  let (rest, count) := damp (scaled + scaled / written) 0
  count + 36 * rest / (rest + 38)

structure State where
  shown : List Char
  delta : Nat
  bias : Nat
  /-- Number of characters written so far. -/
  written : Nat

/-- Pass a character of the label while the characters of one value are written. -/
def pass (basic value : Nat) (state : State) (c : Char) : State :=
  if c.toNat < value then
    { state with delta := state.delta + 1 }
  else if c.toNat = value then
    { shown := state.shown ++ digits state.bias 36 state.delta
      delta := 0
      bias := adapt state.delta (state.written + 1) (state.written == basic)
      written := state.written + 1 }
  else
    state

/-- Write the characters of ascending values; all smaller ones are written. -/
def writeValues (label : List Char) (basic : Nat) : List Nat → Nat → State → State
  | [], _, state => state
  | value :: rest, next, state =>
    let raised := { state with delta := state.delta + (value - next) * (state.written + 1) }
    let passed := label.foldl (pass basic value) raised
    writeValues label basic rest (value + 1) { passed with delta := passed.delta + 1 }

/-- The code of a label. -/
def encode (label : List Char) : List Char :=
  let basic := label.filter fun c => c.toNat < 128
  let others := (label.filter fun c => 128 ≤ c.toNat).map Char.toNat
  let values := others.eraseDups.mergeSort
  let written := writeValues label basic.length values 128
    { shown := [], delta := 0, bias := 72, written := basic.length }
  (if basic.isEmpty then [] else basic ++ ['-']) ++ written.shown

end Punycode
end Web
end AsmNotebook
