import BearerCheck.Text.Ranges

/-!
The directions of the characters of a label. If a name has a label with characters from right to
left, then each of its labels must be such that no character moves to another label when the name is
shown.
-/

namespace BearerCheck.Domain

open Text

inductive Direction where
  | left
  | right
  | arabicLetter
  | arabicNumber
  | digit
  | separator
  | commonSeparator
  | terminator
  | neutral
  | boundaryNeutral
  | nonspacingMark
  deriving DecidableEq, Repr

namespace Direction

def ofCode (n : Nat) : Direction :=
  ([.left, .right, .arabicLetter, .arabicNumber, .digit, .separator, .commonSeparator, .terminator,
    .neutral, .boundaryNeutral, .nonspacingMark][n]?).getD .left

def table : List Ranges.Valued := Ranges.readValued [
    "0 8 9 6 d 9 6 1 8 1 2 7 1 4 8 1 0 5 1 0 6 1 0 5 1 1 6 1 9 4 1 0 6 1 25 8 1b 3 8 1 0 9 22 0 8",
    "1 3 7 1 8 8 2 1 7 5 21 8 20 0 8 1c2 1 8 8 d 8 3 1b 8 2 10 8 1 6f a 6 0 8 81 0 8 8d 6 a 101 4",
    "8 1 0 7 2 2c a 1 0 1 1 0 a 1 0 1 1 1 a 1 0 1 1 1 a 1 0 1 1 2 a 7 24 1 12 1 8 1 0 2 1 1 7 1 0",
    "2 1 0 6 1 0 2 1 1 8 1 a a 1 2f 2 1 14 a 1 9 3 1 0 7 1 1 3 1 2 2 1 0 a 1 64 2 1 6 a 2 0 8 1 5",
    "a 1 1 2 1 1 a 1 0 8 1 3 a 1 1 2 1 9 4 1 16 2 1 0 a 1 1d 2 1 1a a 3 58 2 1 a a 1 0 2 f 2a 1 1",
    "8 a 1 1 1 1 3 8 1 0 1 3 0 a 1 17 1 1 3 a 1 0 1 1 8 a 1 0 1 1 2 a 1 0 1 1 4 a 3 28 1 1 2 a 3",
    "0 1 2 2f 2 8 8 a 1 29 2 1 38 a 38 0 a 2 0 a 5 7 a 5 0 a 4 6 a b 1 a 1e 0 a 3b 0 a 5 3 a 9 0",
    "a 15 1 a f 1 7 8 0 7 3 4 a 3a 0 a 5 10 a 1f 1 a 4 0 a c 1 a 3a 0 a 5 7 a 5 0 a 15 1 a e 0 7",
    "9 7 a 3b 0 a 3 0 a 2 3 a 9 9 a c 1 a 1f 0 a 3e 0 a d 0 a 26 5 8 1 0 7 1 0 8 6 0 a 4 0 a 38 0",
    "a 2 2 a 6 10 a c 1 a 15 6 8 3 0 a 3b 0 a 10 1 a 15 1 a 1d 1 a 3a 1 a 5 3 a 9 0 a 15 1 a 1e 0",
    "a 49 0 a 8 4 a 5b 0 a 3 6 a 5 0 7 8 7 a 63 0 a 3 8 a c 6 a 4a 1 a 1c 0 a 2 0 a 2 0 a 1 3 8",
    "34 d a 2 4 a 2 1 a 6 2f a a 0 a 67 3 a 2 5 a 2 1 a 3 1 a 1a 1 a 5 2 a 11 3 a e 0 a 3 1 a 7 0",
    "a 10 0 a 2c0 2 a 31 9 8 67 0 8 29b 1 8 76 2 a 1e 1 a 1f 1 a 1f 1 a 44 6 a 9 0 a 3 a a 8 0 7",
    "2 0 a 13 1a 8 7b 1 a 23 0 a 77 2 a 5 1 a a 0 a 7 2 a 5 5 8 99 21 8 18 1 a 3 0 a 3b 0 a 2 8 a",
    "2 0 a 3 7 a 7 c a 31 53 a 31 0 a 2 3 a 32 8 a d 1 a 21 3 a 3 1 a 2 2 a 39 0 a 2 1 a 4 0 a 2",
    "2 a 3b 7 a 3 1 a 99 2 a 2 c a 2 6 a 5 0 a 7 0 a 4 1 a c7 3f a 20d 1 9 3 17 8 9 2 7 3 e 8 1 0",
    "6 1 4a 8 11 24 7 c 20 a 14 25 8 5 0 7 c 13 8 3d 87 8 1 0 5 1 0 7 1 121 8 46 19 8 2 315 8 2",
    "152 8 101 2ff 8 e6 5 8 5 2 a 8 6 8 80 0 a 61 1f a 1 204 8 4 18 8 a 3 a 3 0 8 7 0 8 6 2 8 5a",
    "1 a 6 0 8 5b 0 8 c5 25 8 1bdb 3f 8 5691 36 8 147 2 8 60 3 a 1 0 8 1 9 a 1 1 8 1f 1 a 51 1 a",
    "f 21 8 67 0 8 7a 0 a 4 0 a 5 0 a 1a 1 a 2 3 8 1 0 a c 1 7 3b 3 8 4d 1 a 1b 11 a e 0 a 27 7 a",
    "1a a a 2f 2 a 31 0 a 3 3 a 3 1 a 28 0 a 44 5 a 3 1 a 3 1 a d 0 a 9 0 a 30 0 a 34 0 a 2 2 a 3",
    "1 a 6 1 a 2 0 a 2b 1 a 9 0 a 74 1 8 7a 0 a 3 0 a 5 0 a 4f31 0 a 94 10 2 1 23c 8 21 f a 16 1",
    "8 2d 0 2 28e 0 8 3f 4c 8 4 10 8 5d 0 a e3 0 a 1 1a 4 7b 4 a 486 11b 1 4 0 8 1 e0 1 1 e a 1",
    "25 1 3 7 a 1 a4 1 1 1 a 5 4a 1 4 6 8 1 1bf 1 1 23 2 1 3 a 9 19 3 1 5 1 1a 4 a 1 0 8 1 20 1",
    "d1 1e 3 2 29 1 2 1 a 1 4 1 11 8 2 1 0 a 5 8 8 1 0 2 17 f a 1 27 1 9 15 2 1 a a 1 8 2 17 11 1",
    "1 3 a 1 70 1 b 0 a 37 e a c 13 8 b 0 a 3 1 a b 2 a 32 3 a 3 1 a 8 0 a 3e 2 a 25 4 a 2 7 a 3f",
    "0 a d 1 a 35 8 a b 3 a 3 0 a 60 2 a 3 0 a 2 1 a 7 0 a 3 0 a 9e 0 a 4 7 a 16 1 a 3a 1 a 4 0 a",
    "26 e a 47 5 a e 0 a 2 0 a 2 0 a f 1 a 56 7 a 3 2 a 2 0 a 18 0 a 55 5 a 2 0 a 5 1 a 2 1 a ef",
    "3 a 7 1 a 2 1 a 1c 1 a 56 7 a 3 0 a 2 1 a 20 c 8 3f 0 a 2 0 a 3 5 a 2 0 a 66 0 a 2 0 a 3 3 a",
    "2 4 a 104 8 a 2 1 a 101 1 a 2 0 a 5 0 a 91 7 a 5 0 a 21 5 a 3 1 a 29 5 a 3 3 a 9 0 a a 5 a 3",
    "2 a 2f c a 2 1 a c7 0 a 2 2 a 2 0 a ca d a 55 15 a 3 6 a 2 1 a 2 1 a 7b 14 a 2 0 a 49 1 a 4",
    "0 a 2 0 a 15c 1 a c 1 a 35 4 a 6 0 a 2 0 a 18 0 a 7b 7 8 1 3 7 1 10 8 144f 0 a 7 e a 2cc9 b",
    "a 4 2 a 9c1 4 a 3c 6 a 419 0 a 40 3 a 50 0 8 2 0 a 4cb9 1 a f62 2f0 8 10 46 a 221 2 a 12 7 a",
    "3 6 a 1f 3 a 3c 58 8 1 2 a 1 4a 8 71 56 8 6aa 36 a 5 31 a 9 0 a f 0 a 17 14 a 51 ff 8 401 8f",
    "a a1 6 a 178 0 a 3e 3 a 10 0 7 1ed 3 a ff 1 a f4 0 a 3 0 a 8 1 a 6 0 a 10b cf 1 1 6 a 4c 21",
    "1 1 6 a 1 14 1 312 cc 2 1b3 23f 8 3e 2 8 3e 0 8 b3 99a 8"]

def of (c : Char) : Direction :=
  ((Ranges.find? table c.toNat).map fun r => ofCode r.value).getD .left

def goesRight (d : Direction) : Bool := d = .right || d = .arabicLetter || d = .arabicNumber

def isWeak (d : Direction) : Bool :=
  d ∈ [.digit, .separator, .commonSeparator, .terminator, .neutral, .boundaryNeutral,
    .nonspacingMark]

def end? (ds : List Direction) : Option Direction :=
  (ds.reverse.dropWhile (· = .nonspacingMark)).head?

def isUniform (label : List Char) : Bool :=
  let ds := label.map of
  match ds, end? ds with
  | [], _ => true
  | .left :: _, some e => ds.all (fun d => d = .left || d.isWeak) && e ∈ [.left, .digit]
  | d :: _, some e =>
    d ∈ [.right, .arabicLetter] && ds.all (fun d => d.goesRight || d.isWeak) &&
      e ∈ [.right, .arabicLetter, .digit, .arabicNumber] &&
      !(ds.contains .digit && ds.contains .arabicNumber)
  | _, none => false

def areUniform (labels : List (List Char)) : Bool :=
  !labels.any (·.any fun c => (of c).goesRight) || labels.all isUniform

end Direction

end BearerCheck.Domain
