set_option autoImplicit false

/-!
# Punycode

A label with characters beyond ASCII is written in ASCII: first its ASCII characters, then, after a
hyphen, where to put the others. These are inserted in ascending order, and each insertion is told by
how many states of a counter it is away from the one before; the counter runs over positions first
and over code points second. Such a distance is written in base 36 with a threshold for each digit
that follows the sizes of the distances before.
-/

namespace Webprint.Idna.Punycode

def digitChar (d : Nat) : Char :=
  if d < 26 then Char.ofNat ('a'.toNat + d) else Char.ofNat ('0'.toNat + (d - 26))

def digitValue? (c : Char) : Option Nat :=
  if 'a' ≤ c && c ≤ 'z' then some (c.toNat - 'a'.toNat)
  else if 'A' ≤ c && c ≤ 'Z' then some (c.toNat - 'A'.toNat)
  else if '0' ≤ c && c ≤ '9' then some (c.toNat - '0'.toNat + 26)
  else none

/-- The threshold of the digit in place `k`, where places are counted in steps of 36. -/
def threshold (k bias : Nat) : Nat :=
  if k ≤ bias then 1 else if bias + 26 ≤ k then 26 else k - bias

theorem threshold_pos (k bias : Nat) : 0 < threshold k bias := by
  unfold threshold
  split
  · omega
  · split <;> omega

def settle (delta k : Nat) : Nat × Nat :=
  if 455 < delta then settle (delta / 35) (k + 36) else (delta, k)
termination_by delta

def adapt (delta count : Nat) (first : Bool) : Nat :=
  let scaled := if first then delta / 700 else delta / 2
  let (small, k) := settle (scaled + scaled / count) 0
  k + 36 * small / (small + 38)

def distanceDigits (bias k n : Nat) : List Char :=
  let t := threshold k bias
  if n < t then [digitChar n]
  else digitChar (t + (n - t) % (36 - t)) :: distanceDigits bias (k + 36) ((n - t) / (36 - t))
termination_by n
decreasing_by
  have positive := threshold_pos k bias
  exact Nat.lt_of_le_of_lt (Nat.div_le_self _ _) (by omega)

/-- What has been written, the distance since, the bias, and how many characters are in place. -/
structure Writing where
  text : List Char := []
  delta : Nat := 0
  bias : Nat := 72
  placed : Nat

def Writing.pass (basic n : Nat) (w : Writing) (c : Char) : Writing :=
  if c.toNat < n then { w with delta := w.delta + 1 }
  else if c.toNat = n then
    { text := w.text ++ distanceDigits w.bias 36 w.delta
      delta := 0
      bias := adapt w.delta (w.placed + 1) (w.placed == basic)
      placed := w.placed + 1 }
  else w

def writeAll (label : List Char) (basic : Nat) : Nat → List Nat → Writing → Writing
  | _, [], w => w
  | n, m :: ms, w =>
    let w := { w with delta := w.delta + (m - n) * (w.placed + 1) }
    let w := label.foldl (Writing.pass basic m) w
    writeAll label basic (m + 1) ms { w with delta := w.delta + 1 }

def encode (label : List Char) : List Char :=
  let basic := label.filter (·.toNat < 0x80)
  let beyond := ((label.filter (0x80 ≤ ·.toNat)).map (·.toNat)).mergeSort.eraseDups
  basic ++ (if basic.isEmpty then [] else ['-'])
    ++ (writeAll label basic.length 0x80 beyond { placed := basic.length }).text

/-- Reads a distance from place `k` on, where a digit counts `weight` times; returns the distance and
what follows. Numbers beyond 32 bits are no distances. -/
def readDistance? (bias : Nat) : List Char → Nat → Nat → Nat → Option (Nat × List Char)
  | [], _, _, _ => none
  | c :: rest, k, weight, n =>
    match digitValue? c with
    | none => none
    | some d =>
      let n := n + d * weight
      let t := threshold k bias
      if Nat.pow 2 32 ≤ n then none
      else if d < t then some (n, rest)
      else if Nat.pow 2 32 ≤ weight * (36 - t) then none
      else readDistance? bias rest (k + 36) (weight * (36 - t)) n

theorem readDistance?_length (bias : Nat) (s : List Char) (k weight n m : Nat) (rest : List Char)
    (h : readDistance? bias s k weight n = some (m, rest)) : rest.length < s.length := by
  induction s generalizing k weight n with
  | nil => simp [readDistance?] at h
  | cons c s ih =>
    rw [readDistance?] at h
    split at h
    · simp at h
    · simp only at h
      split at h
      · simp at h
      · split at h
        · simp only [Option.some.injEq, Prod.mk.injEq] at h
          simp [← h.2]
        · split at h
          · simp at h
          · exact Nat.lt_succ_of_lt (ih _ _ _ h)

def readAll? (s : List Char) (n i bias : Nat) (label : List Char) : Option (List Char) :=
  if s.isEmpty then some label
  else
    match _h : readDistance? bias s 36 1 0 with
    | none => none
    | some (distance, rest) =>
      let state := i + distance
      let size := label.length + 1
      let code := n + state / size
      let place := state % size
      if Nat.pow 2 32 ≤ state || !(Nat.isValidChar code) then none
      else
        readAll? rest code (place + 1) (adapt distance size (i == 0))
          (label.take place ++ Char.ofNat code :: label.drop place)
termination_by s.length
decreasing_by exact readDistance?_length bias s 36 1 0 distance rest _h

/-- What stands before the last hyphen, and what follows it; all follows if there is none before
which something stands. -/
def partAtLastHyphen (s : List Char) : List Char × List Char :=
  match s.reverse.span (· != '-') with
  | (_, []) => ([], s)
  | (_, [_]) => ([], s)
  | (after, _ :: before) => (before.reverse, after.reverse)

def decode? (s : List Char) : Option (List Char) :=
  let (basic, distances) := partAtLastHyphen s
  if basic.all (·.toNat < 0x80) then readAll? distances 0x80 0 72 basic else none

end Webprint.Idna.Punycode
