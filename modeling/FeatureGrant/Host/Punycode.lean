/-!
# Punycode

The encoding of a text as letters, digits and hyphens: the ASCII characters in
order, a hyphen, and for the others, taken in ascending order, how many
insertion steps lie between each and the one before, as a number of variable
length.  Decoding takes these steps again.
-/

namespace FeatureGrant.Host.Punycode

/-- The character of a digit below 36: letters first, then figures. -/
def digit (d : Nat) : Char :=
  if d < 26 then Char.ofNat (0x61 + d) else Char.ofNat (0x30 + (d - 26))

/-- The value from which on a digit at the given weight continues the number,
between 1 and 26. -/
def threshold (weight bias : Nat) : Nat :=
  if weight ≤ bias then 1 else if bias + 26 ≤ weight then 26 else weight - bias

theorem threshold_pos (weight bias : Nat) : 1 ≤ threshold weight bias := by
  unfold threshold
  split
  · omega
  · split <;> omega

/-- How often `delta` is divided by 35 until it is at most 455, in steps of
36, and what is left. -/
def scaleDown (delta scaled : Nat) : Nat × Nat :=
  if 455 < delta then scaleDown (delta / 35) (scaled + 36) else (delta, scaled)
termination_by delta
decreasing_by exact Nat.div_lt_self (by omega) (by omega)

/-- The bias after a number `delta` was written as the `written`-th
character, the first being damped. -/
def adapt (delta written : Nat) (first : Bool) : Nat :=
  let damped := if first then delta / 700 else delta / 2
  let (left, scaled) := scaleDown (damped + damped / written) 0
  scaled + 36 * left / (left + 38)

/-- A number as digits, lowest first. -/
def numberDigits (bias weight n : Nat) : List Char :=
  let t := threshold weight bias
  if n < t then [digit n]
  else
    digit (t + (n - t) % (36 - t)) ::
      numberDigits bias (weight + 36) ((n - t) / (36 - t))
termination_by n
decreasing_by
  have := threshold_pos weight bias
  calc (n - threshold weight bias) / (36 - threshold weight bias)
      ≤ n - threshold weight bias := Nat.div_le_self _ _
    _ < n := by omega

/-- What has been written, and what the next number depends on: the steps
since the last insertion, the bias and how many characters are placed. -/
structure Progress where
  out : List Char
  delta : Nat
  bias : Nat
  placed : Nat

/-- Passes one character of the text while the characters `m` are inserted. -/
def pass (basic m : Nat) (p : Progress) (c : Char) : Progress :=
  if c.toNat < m then { p with delta := p.delta + 1 }
  else if c.toNat == m then
    { out := p.out ++ numberDigits p.bias 36 p.delta
      delta := 0
      bias := adapt p.delta (p.placed + 1) (p.placed == basic)
      placed := p.placed + 1 }
  else p

/-- Inserts the characters of the listed code points, `n` being the first that
is still possible. -/
def insertAll (s : List Char) (basic : Nat) :
    List Nat → Nat → Progress → Progress
  | [], _, p => p
  | m :: rest, n, p =>
    let start := { p with delta := p.delta + (m - n) * (p.placed + 1) }
    let done := s.foldl (pass basic m) start
    insertAll s basic rest (m + 1) { done with delta := done.delta + 1 }

/-- Puts a number into an ascending list without repetitions. -/
def insertOnce (n : Nat) : List Nat → List Nat
  | [] => [n]
  | m :: rest =>
    if n < m then n :: m :: rest
    else if n == m then m :: rest
    else m :: insertOnce n rest

/-- The encoded form of a text. -/
def encode (s : List Char) : List Char :=
  let basic := s.filter (·.toNat < 0x80)
  let others := (s.filter (0x80 ≤ ·.toNat)).foldr (insertOnce ·.toNat) []
  let start : Progress :=
    { out := [], delta := 0, bias := 72, placed := basic.length }
  basic ++ (if basic.isEmpty then [] else ['-'])
    ++ (insertAll s basic.length others 0x80 start).out

/-! ## Decoding -/

/-- The value of a digit, a letter counting in both cases. -/
def digitValue? (c : Char) : Option Nat :=
  if c.isLower then some (c.toNat - 0x61)
  else if c.isUpper then some (c.toNat - 0x41)
  else if c.isDigit then some (c.toNat - 0x30 + 26)
  else none

/-- Reads a number to whose `value` the next digit adds `scale` times its own, and
gives it with what stands behind it. -/
def readNumber? (bias : Nat) :
    (weight scale value : Nat) → List Char → Option (Nat × List Char)
  | _, _, _, [] => none
  | weight, scale, value, c :: rest =>
    match digitValue? c with
    | none => none
    | some d =>
      let t := threshold weight bias
      if d < t then some (value + d * scale, rest)
      else readNumber? bias (weight + 36) (scale * (36 - t)) (value + d * scale) rest

theorem length_lt_of_readNumber? {bias weight scale value n : Nat}
    {s rest : List Char} (h : readNumber? bias weight scale value s = some (n, rest)) :
    rest.length < s.length := by
  induction s generalizing weight scale value with
  | nil => simp [readNumber?] at h
  | cons c s ih =>
    simp only [readNumber?] at h
    split at h
    · simp at h
    · split at h
      · simp only [Option.some.injEq, Prod.mk.injEq] at h
        simp [h.2]
      · exact Nat.lt_succ_of_lt (ih h)

/-- Inserts the characters that a text of numbers stands for into `placed`, the
next one being `m` at the index `i` unless steps lie between. -/
def insertRead? (placed : List Char) (m i bias : Nat) (s : List Char) (first : Bool) :
    Option (List Char) :=
  if s.isEmpty then some placed
  else
    match h : readNumber? bias 36 1 0 s with
    | none => none
    | some (delta, rest) =>
      let size := placed.length + 1
      let m := m + (i + delta) / size
      let i := (i + delta) % size
      if m.isValidChar then
        insertRead? (placed.insertIdx i (Char.ofNat m)) m (i + 1)
          (adapt delta size first) rest false
      else none
termination_by s.length
decreasing_by exact length_lt_of_readNumber? h

/-- The text whose encoded form is given. -/
def decode? (s : List Char) : Option (List Char) :=
  let steps := (s.reverse.takeWhile (· != '-')).reverse
  let basic := s.take (s.length - steps.length - 1)
  insertRead? basic 0x80 0 72 steps true

end FeatureGrant.Host.Punycode
