/-!
Punycode: a label beyond ASCII written with ASCII letters and digits. The ASCII characters come
first; the others are given, in increasing order, by their distances from one another in the list of
all pairs of a code point and a position. The distances are numbers of mixed base whose digits adapt
to the numbers written so far.
-/

namespace TeacherRegistry.Url.Punycode

/-- The letter or digit that stands for a digit below 36. -/
def digitChar (d : Nat) : Char :=
  if d < 26 then Char.ofNat ('a'.toNat + d) else Char.ofNat ('0'.toNat + d - 26)

/-- The digit that a letter, in either case, or a decimal digit stands for. -/
def digitValue? (c : Char) : Option Nat :=
  if 'a' ≤ c ∧ c ≤ 'z' then some (c.toNat - 'a'.toNat)
  else if 'A' ≤ c ∧ c ≤ 'Z' then some (c.toNat - 'A'.toNat)
  else if c.isDigit then some (c.toNat - '0'.toNat + 26)
  else none

/-- The first value a digit at place `k` cannot end a number with. -/
def threshold (bias k : Nat) : Nat :=
  min 26 (max 1 (k - bias))

theorem threshold_pos (bias k : Nat) : 1 ≤ threshold bias k := by
  simp only [threshold]; omega

theorem threshold_le (bias k : Nat) : threshold bias k ≤ 26 := by
  simp only [threshold]; omega

/-- Divides by 35 until 455 is not exceeded, counting places. -/
def settle (delta places : Nat) : Nat :=
  if 455 < delta then settle (delta / 35) (places + 36)
  else places + 36 * delta / (delta + 38)
termination_by delta

/-- The bias after a number has been written or read. -/
def adapt (delta count : Nat) (first : Bool) : Nat :=
  let halved := if first then delta / 700 else delta / 2
  settle (halved + halved / count) 0

/-- A number in digits of mixed base, from place `k` on. -/
def numberDigits (bias k n : Nat) : List Char :=
  let t := threshold bias k
  if n < t then [digitChar n]
  else digitChar (t + (n - t) % (36 - t)) :: numberDigits bias (k + 36) ((n - t) / (36 - t))
termination_by n
decreasing_by
  have positive := threshold_pos bias k
  have bounded := threshold_le bias k
  calc (n - threshold bias k) / (36 - threshold bias k)
      ≤ n - threshold bias k := Nat.div_le_self _ _
    _ < n := by omega

/-- What the writer carries from one code point to the next. -/
structure Writer where
  written : List Char
  delta : Nat
  bias : Nat
  count : Nat

/-- Passes over one character of the label while code point `next` is written. -/
def Writer.pass (basic next : Nat) (w : Writer) (c : Char) : Writer :=
  if c.toNat < next then { w with delta := w.delta + 1 }
  else if c.toNat = next then
    { written := w.written ++ numberDigits w.bias 36 w.delta
      delta := 0
      bias := adapt w.delta (w.count + 1) (w.count == basic)
      count := w.count + 1 }
  else w

/-- Writes the code points of `pending`, which increase and are not below `low`. -/
def writePending (label : List Char) (basic : Nat) : List Nat → Nat → Writer → Writer
  | [], _, w => w
  | next :: pending, low, w =>
    let reached := { w with delta := w.delta + (next - low) * (w.count + 1) }
    let done := label.foldl (Writer.pass basic next) reached
    writePending label basic pending (next + 1) { done with delta := done.delta + 1 }

/-- Puts a number into an increasing list without repetition. -/
def insertOnce (n : Nat) : List Nat → List Nat
  | [] => [n]
  | m :: rest =>
    if n < m then n :: m :: rest
    else if n = m then m :: rest
    else m :: insertOnce n rest

/-- The written form of a label. -/
def encode (label : List Char) : List Char :=
  let basic := label.filter fun c => c.toNat < 0x80
  let others := (label.map Char.toNat).filter (0x80 ≤ ·)
  let start : Writer := ⟨[], 0, 72, basic.length⟩
  let ends := writePending label basic.length (others.foldr insertOnce []) 0x80 start
  basic ++ (if basic = [] then [] else ['-']) ++ ends.written

/-- Reads a number in digits of mixed base, with what follows it. -/
def readNumber? (bias : Nat) : Nat → Nat → Nat → List Char → Option (Nat × List Char)
  | _, _, _, [] => none
  | k, weight, value, c :: rest => do
    let digit ← digitValue? c
    let value := value + digit * weight
    let t := threshold bias k
    if digit < t then some (value, rest)
    else readNumber? bias (k + 36) (weight * (36 - t)) value rest

theorem readNumber?_length {bias k weight value n : Nat} {cs rest : List Char}
    (h : readNumber? bias k weight value cs = some (n, rest)) : rest.length < cs.length := by
  induction cs generalizing k weight value with
  | nil => simp [readNumber?] at h
  | cons c cs ih =>
    simp only [readNumber?, Option.bind_eq_bind, Option.bind_eq_some_iff] at h
    obtain ⟨digit, -, h⟩ := h
    split at h
    · simp only [Option.some.injEq, Prod.mk.injEq] at h
      simp [← h.2]
    · exact Nat.lt_succ_of_lt (ih h)

/-- Reads the characters beyond ASCII into `label`, where `next` is the least code point and
`position` the first place that the next one may have. -/
def readPending? (label : List Char) (next position bias : Nat) (cs : List Char) :
    Option (List Char) :=
  match cs with
  | [] => some label
  | c :: rest =>
    match _h : readNumber? bias 36 1 0 (c :: rest) with
    | none => none
    | some (delta, rest) =>
      let count := label.length + 1
      let total := position + delta
      let code := next + total / count
      let place := total % count
      if code.isValidChar ∧ 0x80 ≤ code then
        readPending? (label.insertIdx place (Char.ofNat code)) code (place + 1)
          (adapt delta count (position == 0)) rest
      else none
termination_by cs.length
decreasing_by exact readNumber?_length _h

/-- The label that is written as `cs`: what stands before the last hyphen is ASCII. A hyphen with
nothing before it ends no ASCII part, and is no digit either. -/
def decode? (cs : List Char) : Option (List Char) :=
  let tail := (cs.reverse.takeWhile (· ≠ '-')).reverse
  let basic := (cs.take (cs.length - tail.length)).dropLast
  if basic = [] then readPending? [] 0x80 0 72 cs
  else if basic.all fun c => c.toNat < 0x80 then readPending? basic 0x80 0 72 tail
  else none

end TeacherRegistry.Url.Punycode
