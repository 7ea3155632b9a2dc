/-!
# Tables over code points

Small containers for the character data of a standard: sets given as closed
intervals, and maps given as rows of packed code points.  Lookups are plain
list searches, so that a look-up of a concrete character can be computed
inside a proof.
-/

namespace FeatureGrant.Text

/-- A set of code points, as ascending closed intervals. -/
structure Intervals where
  toList : List (Nat × Nat)

/-- Whether a character lies in one of the intervals. -/
def Intervals.has (t : Intervals) (c : Char) : Bool :=
  t.toList.any fun (first, last) => first ≤ c.toNat && c.toNat ≤ last

/-- The `count` lowest digits of `n` to the base 2^24, highest first. -/
def unpack : (count n : Nat) → List Nat
  | 0, _ => []
  | k + 1, n => unpack k (n >>> 24) ++ [n % 0x1000000]

/-- Data for the code points from `first` on: `count` units of 24 bits in one
number. -/
structure PackedRow where
  first : Nat
  count : Nat
  packed : Nat

/-- The units of a row in order. -/
def PackedRow.units (r : PackedRow) : List Nat := unpack r.count r.packed

/-- A row of images of consecutive code points. A unit whose highest bit is
set is followed by more of the same image. -/
abbrev ImageRow := PackedRow

/-- Cuts units into images after each unit whose highest bit is clear. -/
def cutImages : List Nat → List (List Nat)
  | [] => []
  | u :: us =>
    if u < 0x800000 then [u] :: cutImages us
    else
      match cutImages us with
      | [] => [[u - 0x800000]]
      | image :: more => ((u - 0x800000) :: image) :: more

/-- The code points `first` to `last`, sent one for one to those from
`target` on. -/
structure Shift where
  first : Nat
  last : Nat
  target : Nat

/-- A map from characters to texts. -/
structure ImageTable where
  shifts : List Shift
  rows : List ImageRow

/-- The image of a character, if the table lists it. -/
def ImageTable.image? (t : ImageTable) (c : Char) : Option (List Char) :=
  match t.shifts.find? fun s => s.first ≤ c.toNat && c.toNat ≤ s.last with
  | some s => some [Char.ofNat (s.target + (c.toNat - s.first))]
  | none =>
    (t.rows.findSome? fun row =>
      if row.first ≤ c.toNat && c.toNat < row.first + row.count then
        (cutImages row.units)[c.toNat - row.first]?
      else none).map (·.map Char.ofNat)

/-- The second member of the first pair, in a list of alternating firsts and
seconds, whose first member is `a`. -/
def pairedWith (a : Nat) : List Nat → Option Nat
  | b :: c :: rest => if b == a then some c else pairedWith a rest
  | _ => none

end FeatureGrant.Text
