import WorkspaceSession.Text.Pieces

/-! Punycode: the ASCII characters of a label, and behind the last hyphen the others as a row of
numbers. Each number says how far it is from one insertion to the next, counted over all places in
the text and all code points in ascending order. -/
namespace WorkspaceSession.Domain.Punycode

def base : Nat := 36

def digit? (c : Char) : Option Nat :=
  if 'a' ≤ c ∧ c ≤ 'z' then some (c.toNat - 'a'.toNat)
  else if c.isDigit then some (c.toNat - '0'.toNat + 26)
  else none

/-- A digit below the threshold is the last one of its number. -/
def threshold (position bias : Nat) : Nat := max 1 (min 26 (position - bias))

def limit : Nat := Nat.pow 2 32

/-- Adds a number to the total. The lowest digit comes first. -/
def readNumber (bias position weight total : Nat) : List Char → Option (Nat × List Char)
  | [] => none
  | c :: rest =>
    match digit? c with
    | none => none
    | some d =>
      let total := total + d * weight
      let t := threshold position bias
      let next := weight * (base - t)
      if limit ≤ total then none
      else if d < t then some (total, rest)
      else if limit ≤ next then none
      else readNumber bias (position + base) next total rest

theorem length_lt_of_readNumber {bias position weight total : Nat} {cs rest : List Char} {n : Nat}
    (h : readNumber bias position weight total cs = some (n, rest)) : rest.length < cs.length := by
  induction cs generalizing position weight total with
  | nil => simp [readNumber] at h
  | cons c cs ih =>
    simp only [readNumber] at h
    split at h
    · simp at h
    · split at h
      · simp at h
      · split at h
        · simp only [Option.some.injEq, Prod.mk.injEq] at h
          simp [h.2]
        · split at h
          · simp at h
          · exact Nat.lt_succ_of_lt (ih h)

def scale (distance steps : Nat) : Nat :=
  if 455 < distance then scale (distance / 35) (steps + base)
  else steps + base * distance / (distance + 38)
termination_by distance
decreasing_by exact Nat.div_lt_self (by omega) (by omega)

def nextBias (distance count : Nat) (isFirst : Bool) : Nat :=
  let halved := if isFirst then distance / 700 else distance / 2
  scale (halved + halved / count) 0

def insertAll (text : List Char) (code place bias : Nat) (digits : List Char) :
    Option (List Char) :=
  if digits = [] then some text
  else
    match _ : readNumber bias base 1 place digits with
    | none => none
    | some (total, rest) =>
      let count := text.length + 1
      let code := code + total / count
      let found := total % count
      if code.isValidChar then
        insertAll (text.take found ++ Char.ofNat code :: text.drop found) code (found + 1)
          (nextBias (total - place) count (place = 0)) rest
      else none
termination_by digits.length
decreasing_by exact length_lt_of_readNumber ‹_›

/-- The label that a code stands for. Something must be inserted, and without ASCII characters there
is no hyphen. -/
def decode? (cs : List Char) : Option (List Char) :=
  match Text.splitLast? '-' cs with
  | some (text, digits) =>
    if text = [] || digits = [] || text.any fun c => 0x80 ≤ c.toNat then none
    else insertAll text 0x80 0 72 digits
  | none => if cs = [] then none else insertAll [] 0x80 0 72 cs

end WorkspaceSession.Domain.Punycode
