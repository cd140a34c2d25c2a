import RowLoader.Text.Digit

/-!
Punycode: a text as letters, digits and hyphens of ASCII. The characters of ASCII come first, then for
each other character, from the least on, how far a count over places and characters has to run.
-/

namespace RowLoader.Text.Punycode

def digit (n : Nat) : Char :=
  Char.ofNat (if n < 26 then n + 97 else n + 22)

/-- The least value from which on another digit follows, for a place and a bias. -/
def threshold (place bias : Nat) : Nat :=
  min (max (place - bias) 1) 26

theorem threshold_pos (place bias : Nat) : 0 < threshold place bias := by
  unfold threshold
  omega

/-- A number in digits of which every place has its own threshold. -/
def digits (bias place n : Nat) : List Char :=
  let t := threshold place bias
  if n < t then [digit n]
  else digit (t + (n - t) % (36 - t)) :: digits bias (place + 36) ((n - t) / (36 - t))
termination_by n
decreasing_by
  have low := threshold_pos place bias
  calc (n - threshold place bias) / (36 - threshold place bias)
      ≤ n - threshold place bias := Nat.div_le_self _ _
    _ < n := by omega

/-- The bias that a number gives, with the places that were taken out of it so far. -/
def settled (places n : Nat) : Nat :=
  if 455 < n then settled (places + 36) (n / 35) else places + 36 * n / (n + 38)
termination_by n

/-- The bias after a number was written, with the count of characters that stand by then. -/
def adapted (isFirst : Bool) (count n : Nat) : Nat :=
  let n := if isFirst then n / 700 else n / 2
  settled 0 (n + n / count)

/-- The state between characters: how many are written, the count so far, and the bias. -/
structure Progress where
  written : Nat
  count : Nat
  bias : Nat

/-- Write one character wherever it stands in a text, among the lesser ones. -/
def writeAll (isStart : Nat → Bool) (c : Nat) : List Nat → Progress → List Char × Progress
  | [], p => ([], p)
  | x :: rest, p =>
    if x < c then writeAll isStart c rest { p with count := p.count + 1 }
    else if x = c then
      let (more, last) := writeAll isStart c rest
        ⟨p.written + 1, 0, adapted (isStart p.written) (p.written + 1) p.count⟩
      (digits p.bias 36 p.count ++ more, last)
    else writeAll isStart c rest p

/-- The characters outside ASCII, each once, in their order. -/
def others (s : List Nat) : List Nat :=
  ((s.filter (128 ≤ ·)).mergeSort (· ≤ ·)).eraseReps

def writeFrom (s : List Nat) (isStart : Nat → Bool) : Nat → List Nat → Progress → List Char
  | _, [], _ => []
  | next, c :: rest, p =>
    let (first, p) := writeAll isStart c s
      { p with count := p.count + (c - next) * (p.written + 1) }
    first ++ writeFrom s isStart (c + 1) rest { p with count := p.count + 1 }

def encode (s : List Char) : List Char :=
  let basic := s.filter (·.toNat < 128)
  let points := s.map Char.toNat
  basic ++ (if basic.isEmpty then [] else ['-'])
    ++ writeFrom points (· == basic.length) 128 (others points) ⟨basic.length, 0, 72⟩

end RowLoader.Text.Punycode
