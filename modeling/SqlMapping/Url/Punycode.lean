import SqlMapping.Text.Split

/-!
# Names in ASCII

A label with letters outside ASCII is written with its ASCII letters first and then, in ascending
order, where the others are to be inserted. Each insertion is a number of digits to the base 36
whose lengths adapt to the numbers before.
-/

namespace SqlMapping.Url.Punycode

def digit (d : Nat) : Char :=
  Char.ofNat (if d < 26 then 97 + d else 22 + d)

def digitValue? (c : Char) : Option Nat :=
  let n := c.toNat
  if 97 ≤ n ∧ n ≤ 122 then some (n - 97)
  else if 48 ≤ n ∧ n ≤ 57 then some (n - 22)
  else none

/-- The digit from which on a number goes on at position `k`. -/
def threshold (bias k : Nat) : Nat :=
  min 26 (max 1 (k - bias))

theorem one_le_threshold (bias k : Nat) : 1 ≤ threshold bias k := by
  simp only [threshold]
  omega

/-- A number scaled down to 455, and 36 for each time it was divided. -/
def scale (delta : Nat) : Nat × Nat :=
  if 455 < delta then
    let (rest, k) := scale (delta / 35)
    (rest, k + 36)
  else (delta, 0)
termination_by delta
decreasing_by omega

/-- The bias after an insertion; `count` characters stand there then. -/
def adapt (delta count : Nat) (first : Bool) : Nat :=
  let halved := if first then delta / 700 else delta / 2
  let (rest, k) := scale (halved + halved / count)
  k + 36 * rest / (rest + 38)

/-- The digits of a number, the lowest first. -/
def digits (bias k n : Nat) : List Char :=
  let t := threshold bias k
  if n < t then [digit n]
  else digit (t + (n - t) % (36 - t)) :: digits bias (k + 36) ((n - t) / (36 - t))
termination_by n
decreasing_by
  have one := one_le_threshold bias k
  have := Nat.div_le_self (n - threshold bias k) (36 - threshold bias k)
  omega

/-- A label being written: what is written, the characters placed, and the way to the next
insertion. -/
structure Writing where
  out : List Char
  placed : Nat
  delta : Nat := 0
  bias : Nat := 72

/-- Passes over a character of the label while the characters of code `code` are placed. -/
def Writing.pass (basic code : Nat) (w : Writing) (c : Char) : Writing :=
  if c.toNat < code then { w with delta := w.delta + 1 }
  else if c.toNat = code then
    { out := w.out ++ digits w.bias 36 w.delta
      placed := w.placed + 1
      delta := 0
      bias := adapt w.delta (w.placed + 1) (w.placed == basic) }
  else w

/-- Places the characters of some ascending codes, the first of which is at least `least`. -/
def Writing.place (label : List Char) (basic : Nat) : Nat → List Nat → Writing → Writing
  | _, [], w => w
  | least, code :: codes, w =>
    let w := { w with delta := w.delta + (code - least) * (w.placed + 1) }
    let w := label.foldl (Writing.pass basic code) w
    Writing.place label basic (code + 1) codes { w with delta := w.delta + 1 }

/-- The codes outside ASCII in a label, ascending. -/
def codes (label : List Char) : List Nat :=
  ((label.map Char.toNat).filter (128 ≤ ·)).mergeSort.eraseDups

def encode (label : List Char) : List Char :=
  let basic := label.filter (·.toNat < 128)
  let out := if basic.isEmpty then [] else basic ++ ['-']
  (Writing.place label basic.length 128 (codes label) { out, placed := basic.length }).out

/-- Numbers of labels are below this bound. -/
def bound : Nat := 4294967296

/-- A number read from digits, the first of which is at position `k` and counts `weight`, added to
`sum`, and the text after it. -/
def readDigits (bias k weight sum : Nat) : List Char → Option (Nat × List Char)
  | [] => none
  | c :: cs =>
    (digitValue? c).bind fun d =>
      let t := threshold bias k
      let total := sum + d * weight
      if d < t then if total < bound then some (total, cs) else none
      else if weight * (36 - t) < bound then
        readDigits bias (k + 36) (weight * (36 - t)) total cs
      else none

theorem length_of_readDigits {bias k weight sum n : Nat} {cs rest : List Char}
    (h : readDigits bias k weight sum cs = some (n, rest)) : rest.length < cs.length := by
  fun_induction readDigits bias k weight sum cs with
  | case1 => simp at h
  | case2 k weight sum c cs ih =>
    obtain ⟨d, _, h⟩ := Option.bind_eq_some_iff.1 h
    simp only at h
    split at h
    · split at h
      · simp only [Option.some.injEq, Prod.mk.injEq] at h
        simp [← h.2]
      · simp at h
    · split at h
      · have := ih d h
        simp only [List.length_cons]
        omega
      · simp at h

/-- The label that insertions into `out` make; the next character is at least `code`, and is
counted from `index`. -/
def insertAll (bias code index : Nat) (out cs : List Char) : Option (List Char) :=
  match cs with
  | [] => some out
  | c :: rest =>
    match _h : readDigits bias 36 1 index (c :: rest) with
    | none => none
    | some (total, after) =>
      let count := out.length + 1
      let next := code + total / count
      let place := total % count
      if next.isValidChar then
        insertAll (adapt (total - index) count (index == 0)) next (place + 1)
          (out.insertIdx place (Char.ofNat next)) after
      else none
termination_by cs.length
decreasing_by exact length_of_readDigits _h

/-- The label that a text in ASCII writes. A hyphen ends the letters in front, of which there is
at least one then. -/
def decode? (cs : List Char) : Option (List Char) :=
  match Text.splitLast? '-' cs with
  | some ([], _) => none
  | some (basic, rest) => insertAll 72 128 0 basic rest
  | none => insertAll 72 128 0 [] cs

end SqlMapping.Url.Punycode
