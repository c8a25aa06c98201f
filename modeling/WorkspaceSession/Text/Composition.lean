import WorkspaceSession.Text.CompositionTable
import WorkspaceSession.Text.Mark

/-! Canonical composition: marks in their order, each as far as possible in one character with
what it belongs to. -/
namespace WorkspaceSession.Text

/-- The syllables of Hangul are composed by counting: a leading consonant, a vowel and, if there is
one, a trailing consonant. -/
structure Jamo where
  lead : Nat
  vowel : Nat
  trail : Nat := 0

namespace Jamo

def firstLead : Nat := 0x1100
def firstVowel : Nat := 0x1161
def noTrail : Nat := 0x11A7
def firstSyllable : Nat := 0xAC00
def leads : Nat := 19
def vowels : Nat := 21
def trails : Nat := 28

def syllable (j : Jamo) : Char :=
  Char.ofNat (firstSyllable + (j.lead * vowels + j.vowel) * trails + j.trail)

def ofSyllable? (c : Char) : Option Jamo :=
  let n := c.toNat - firstSyllable
  if firstSyllable ≤ c.toNat && n < leads * vowels * trails then
    some ⟨n / trails / vowels, n / trails % vowels, n % trails⟩
  else none

/-- The parts of a syllable; a trailing consonant comes off first. -/
def split (j : Jamo) : Char × Char :=
  if j.trail = 0 then (Char.ofNat (firstLead + j.lead), Char.ofNat (firstVowel + j.vowel))
  else (syllable { j with trail := 0 }, Char.ofNat (noTrail + j.trail))

def join? (a b : Char) : Option Char :=
  if firstLead ≤ a.toNat && a.toNat < firstLead + leads &&
      firstVowel ≤ b.toNat && b.toNat < firstVowel + vowels then
    some (syllable ⟨a.toNat - firstLead, b.toNat - firstVowel, 0⟩)
  else if noTrail < b.toNat && b.toNat < noTrail + trails then
    match ofSyllable? a with
    | some j =>
      if j.trail = 0 then some (syllable { j with trail := b.toNat - noTrail }) else none
    | none => none
  else none

end Jamo

/-- What stands behind a character in a row of first characters and composites. -/
def compositeIn? (a : Char) : List Char → Option Char
  | first :: composite :: rest => if first = a then some composite else compositeIn? a rest
  | _ => none

def firstIn? (c : Char) : List Char → Option Char
  | first :: composite :: rest => if composite = c then some first else firstIn? c rest
  | _ => none

def composite? (a b : Char) : Option Char :=
  match Jamo.join? a b with
  | some c => some c
  | none =>
    composites.findSome? fun (second, row) =>
      if second = b.toNat then compositeIn? a row.toList else none

def split? (c : Char) : Option (Char × Char) :=
  match Jamo.ofSyllable? c with
  | some j => some j.split
  | none =>
    composites.findSome? fun (second, row) =>
      (firstIn? c row.toList).map fun a => (a, Char.ofNat second)

def takeApart : (levels : Nat) → Char → List Char
  | 0, c => [c]
  | levels + 1, c =>
    match split? c with
    | some (a, b) => takeApart levels a ++ [b]
    | none => [c]

/-- No character has more than three marks in it. -/
def decompose (cs : List Char) : List Char := cs.flatMap (takeApart 3)

def insertMark (c : Char) : List Char → List Char
  | [] => [c]
  | d :: rest =>
    if 0 < combiningClass d && combiningClass d < combiningClass c then d :: insertMark c rest
    else c :: d :: rest

def sortMarks (cs : List Char) : List Char := cs.foldr insertMark []

/-- Composes onto a character what follows it. A mark passes over the marks in between, which are
kept in reverse, if they are all of lower classes. -/
def composeOnto (base : Char) (between : List Char) : List Char → List Char
  | [] => base :: between.reverse
  | c :: rest =>
    let passes := between.head?.all fun d => combiningClass d < combiningClass c
    match if passes then composite? base c else none with
    | some d => composeOnto d between rest
    | none =>
      if combiningClass c = 0 then base :: between.reverse ++ composeOnto c [] rest
      else composeOnto base (c :: between) rest

/-- Marks at the start have nothing to be composed onto. -/
def compose : List Char → List Char
  | [] => []
  | c :: rest => if combiningClass c = 0 then composeOnto c [] rest else c :: compose rest

def composed (cs : List Char) : List Char := compose (sortMarks (decompose cs))

end WorkspaceSession.Text
