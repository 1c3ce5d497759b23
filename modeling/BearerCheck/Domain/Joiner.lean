import BearerCheck.Text.CombiningMark

namespace BearerCheck.Domain.Joiner

open Text

inductive Joining where
  | left
  | right
  | both
  | transparent
  | none
  deriving DecidableEq, Repr

def Joining.ofCode (n : Nat) : Joining :=
  if n = 1 then .left else if n = 2 then .right else if n = 3 then .both
  else if n = 4 then .transparent else .none

def table : List Ranges.Valued := Ranges.readValued [
    "300 6f 4 114 6 4 108 2c 4 2 0 4 2 1 4 2 1 4 2 2 4 47 a 4 6 0 3 2 3 2 1 0 3 1 0 2 1 0 3 1 0 2",
    "1 4 3 1 3 2 1 c 3 2 6 3 1 0 2 1 1 3 1 14 4 f 1 3 1 0 4 1 2 2 6 e 3 1 11 2 1 25 3 1 0 2 1 1 3",
    "1 8 2 1 0 3 1 0 2 1 0 3 1 0 2 1 1 3 1 1 2 2 0 2 1 6 4 3 5 4 3 1 4 2 3 4 1 1 2 b 2 3 3 0 3 11",
    "0 2 1 0 4 1 2 3 1 4 2 1 3 3 1 0 2 1 8 3 1 0 2 1 0 3 1 0 2 1 0 3 1 0 2 1 1 3 1 0 2 1 1a 4 3 0",
    "2 1 a 3 1 2 2 1 e 3 1 1 2 1 3 3 1 0 2 1 0 3 1 1 2 1 2 3 1 1 2 1 5 3 27 a 4 1a 20 3 1 8 4 a 0",
    "4 19 3 4 2 8 4 2 2 4 2 4 4 13 0 2 1 4 3 1 1 2 1 0 3 1 0 2 1 9 3 1 0 2 1 0 3 1 2 2 1 2 4 5 0",
    "3 2 3 3 2 0 2 1 0 3 1 19 2 4 0 3 3 4 3 1 0 2 1 0 3 8 8 4 1 9 3 1 2 2 2 0 2 1 1 3 1 1 2 1 5 3",
    "1 0 2 1 e 3 2 38 4 38 0 4 2 0 4 5 7 4 5 0 4 4 6 4 b 1 4 1e 0 4 3b 0 4 5 3 4 9 0 4 15 1 4 1b",
    "4 4 3a 0 4 5 10 4 1f 1 4 4 0 4 c 1 4 3a 0 4 5 7 4 5 0 4 15 1 4 17 7 4 3b 0 4 3 0 4 2 3 4 9 9",
    "4 c 1 4 1f 0 4 3e 0 4 d 0 4 33 0 4 4 0 4 38 0 4 2 2 4 6 10 4 c 1 4 1e 0 4 3b 0 4 3 0 4 7 0 4",
    "6 1 4 15 1 4 1d 1 4 3a 1 4 5 3 4 9 0 4 15 1 4 1e 0 4 49 0 4 8 4 4 5b 0 4 3 6 4 d 7 4 63 0 4",
    "3 8 4 c 6 4 4a 1 4 1c 0 4 2 0 4 2 0 4 38 d 4 2 4 4 2 1 4 6 2f 4 a 0 4 67 3 4 2 5 4 2 1 4 3 1",
    "4 1a 1 4 5 2 4 11 3 4 e 0 4 3 1 4 7 0 4 10 0 4 2c0 2 4 3b3 2 4 1e 1 4 1f 1 4 1f 1 4 44 6 4 9",
    "0 4 3 a 4 a 0 4 2a 0 3 19 58 3 d 1 4 1 21 3 1 0 4 1 0 3 76 2 4 5 1 4 a 0 4 7 2 4 dc 1 4 3 0",
    "4 3b 0 4 2 8 4 2 0 4 3 7 4 7 c 4 31 53 4 31 0 4 2 3 4 32 8 4 d 1 4 21 3 4 3 1 4 2 2 4 39 0 4",
    "2 1 4 4 0 4 2 2 4 3b 7 4 3 1 4 99 2 4 2 c 4 2 6 4 5 0 4 7 0 4 4 1 4 c7 3f 4 2d1 20 4 bff 2 4",
    "8e 0 4 61 1f 4 22b 3 4 6c 1 4 75d5 3 4 2 9 4 21 1 4 51 1 4 111 0 4 4 0 4 5 0 4 1a 1 4 6 0 4",
    "14 31 3 1 0 1 52 1 4 1b 11 4 e 0 4 27 7 4 1a a 4 2f 2 4 31 0 4 3 3 4 3 1 4 28 0 4 44 5 4 3 1",
    "4 3 1 4 d 0 4 9 0 4 30 0 4 34 0 4 2 2 4 3 1 4 6 1 4 2 0 4 2b 1 4 9 0 4 ef 0 4 3 0 4 5 0 4",
    "4f31 0 4 302 f 4 3ce 0 4 e3 0 4 96 4 4 687 e 4 29 7 4 81 4 3 1 0 2 2 0 2 2 1 2 3 0 1 1 4 2 1",
    "3 3 1 0 1 1 4 3 1 0 2 1 2 3 1 0 2 3 0 2 1 1 4 5 3 3 1 0 2 91 0 3 1 0 2 1 0 3 1 2 2 1 2 3 1 0",
    "2 1 1 3 1 0 2 1 0 3 1 1 2 1 0 3 1 0 2 18 3 2 1 1 3 152 0 1 1 20 3 1 0 2 1 0 3 1 3 4 42 4 4",
    "13e 1 4 16 0 2 1 1 3 2 4 3 1 0 4 e 0 3 17 f 4 31 2 3 1 0 2 1 10 3 2 a 4 1 2 3 1 0 2 1c 3 3 1",
    "1 2 1 b 3 1 3 4 2b 0 3 2 1 3 1 2 2 2 0 3 1 1 2 1 1 3 1 0 2 1 1 3 2 0 3 1 1 2 1 0 3 5 0 2 1 0",
    "3 1 0 1 36 0 4 37 e 4 2a 0 4 3 1 4 b 2 4 32 3 4 3 1 4 8 0 4 3e 2 4 25 4 4 2 7 4 3f 0 4 d 1 4",
    "35 8 4 b 3 4 3 0 4 60 2 4 3 0 4 2 1 4 7 0 4 3 0 4 9e 0 4 4 7 4 16 1 4 3a 1 4 4 0 4 26 e 4 47",
    "5 4 e 0 4 2 0 4 2 0 4 f 1 4 56 7 4 3 2 4 2 0 4 18 0 4 55 5 4 2 0 4 5 1 4 2 1 4 ef 3 4 7 1 4",
    "2 1 4 1c 1 4 56 7 4 3 0 4 2 1 4 6b 0 4 2 0 4 3 5 4 2 0 4 66 0 4 2 0 4 3 3 4 2 4 4 104 8 4 2",
    "1 4 101 1 4 2 0 4 5 0 4 91 7 4 5 0 4 21 9 4 29 5 4 3 3 4 9 0 4 a 5 4 3 2 4 2f c 4 2 1 4 c7 0",
    "4 2 2 4 2 0 4 ca d 4 2 0 4 53 15 4 3 6 4 2 1 4 2 1 4 7b 14 4 2 0 4 49 1 4 4 0 4 2 0 4 15c 1",
    "4 c 1 4 35 4 4 6 0 4 2 0 4 18 0 4 14e6 0 4 7 e 4 2cc9 b 4 4 2 4 9c1 4 4 3c 6 4 419 0 4 40 3",
    "4 52 0 4 4cb9 1 4 1262 46 4 221 2 4 12 7 4 3 6 4 1f 3 4 95 2 4 7bc 36 4 5 31 4 9 0 4 f 0 4",
    "17 14 4 551 8f 4 a1 6 4 178 0 4 3e 3 4 1fd 3 4 ff 1 4 f4 0 4 3 0 4 8 1 4 6 0 4 1db 6 4 4c 21",
    "3 1 7 4"]

def joining (c : Char) : Joining :=
  ((Ranges.find? table c.toNat).map fun r => Joining.ofCode r.value).getD .none

def nonJoiner : Char := '\u200C'

def joiner : Char := '\u200D'

def joins (sides : List Joining) (cs : List Char) : Bool :=
  match cs.dropWhile (joining · = .transparent) with
  | c :: _ => joining c ∈ sides
  | [] => false

/-- The text in front is given last character first. -/
def isPlaced (before : List Char) (c : Char) (behind : List Char) : Bool :=
  let afterVirama := before.head?.any fun d => CombiningMark.classOf d = CombiningMark.virama
  if c = joiner then afterVirama
  else if c = nonJoiner then
    afterVirama || (joins [.left, .both] before && joins [.right, .both] behind)
  else true

def arePlaced (before : List Char) : List Char → Bool
  | [] => true
  | c :: r => isPlaced before c r && arePlaced (c :: before) r

end BearerCheck.Domain.Joiner
