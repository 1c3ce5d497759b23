import BearerCheck.Text.Ranges

namespace BearerCheck.Text.CombiningMark

def marks : List (Nat × Nat) := Ranges.read [
    "300 6f 114 6 108 2c 2 0 2 1 2 1 2 2 47 a 31 14 11 0 66 6 3 5 3 1 2 3 24 0 1f 1a 5c a 3b 8 a",
    "0 19 3 2 8 2 2 2 4 2c 2 3c 8 2b 39 37 2 2 11 2 6 b 1 1e 2 39 0 2 f a 0 b 1 1b 5 39 15 1f 1 4",
    "0 c 2 39 0 2 f 15 1 17 9 39 0 2 19 b 1 1f 0 3c f a 0 29 4 38 0 2 18 c 1 1e 2 39 0 2 18 c 1",
    "10 10 38 1 2 f a 0 b 1 1e 2 47 15 13 1 3e 0 3 6 d 7 63 0 3 8 c 6 4a 1 1c 0 2 0 2 0 5 1 32 13",
    "2 1 6 2f a 0 65 13 18 3 5 2 2 2 3 6 4 3 e b 2 0 b 3 2c0 2 3b3 3 1d 2 1e 1 1f 1 43 1d a 0 a8",
    "1 23 0 77 1b dc 4 3a 2a 31 54 30 10 27 8 d 2 1f c 39 d 31 13 99 2 2 14 5 0 7 0 3 2 c7 3f 2d1",
    "20 bff 2 8e 0 61 1f 22b 5 6a 1 75d5 3 2 9 21 1 51 1 111 0 4 0 5 0 18 4 5 0 54 1 33 11 1b 11",
    "e 0 27 7 1a c 2d 3 30 d 25 0 44 d d 0 9 1 2e 2 33 0 2 2 3 1 6 1 2 0 2a 4 6 1 ed 7 2 1 4f31 0",
    "302 f 3ce 0 e3 0 96 4 687 e 29 7 a6 1 23e 3 42 4 13e 1 1f 0 25 f 47 a 32 3 7b 2 36 e 2a 0 3",
    "1 b 3 2e a 8 0 3e 2 25 d 11 1 2d 0 d 2 31 d 9 3 2 1 5d b 7 0 3 0 9e b 16 3 38 1 2 f a 0 b 12",
    "44 18 2 0 f 1 53 11 18 0 52 13 ec 11 1c 1 53 10 6b c 66 e 101 e f6 e 2 0 2 1 8e f 4 0 1d 9",
    "29 6 2 3 9 0 a a 2f f c7 7 c8 10 53 24 7b 14 2 0 43 d 15c 3 a 1 2 0 31 e 18 0 14e6 0 7 e",
    "2cc9 11 9c1 4 3c 6 419 0 2 41 52 d 4cac 1 1262 46 21f 4 4 15 3 6 1f 3 95 2 7bc 36 5 31 9 0 f",
    "0 17 14 551 8f a1 6 178 0 3e 3 1fd 3 ff 1 f4 0 3 0 8 1 6 0 1db 6 6e 6"]

def isMark (c : Char) : Bool := Ranges.contains marks c.toNat

def classes : List Ranges.Valued := Ranges.readValued [
    "300 14 e6 1 0 e8 1 3 dc 1 0 e8 1 0 d8 1 4 dc 1 1 ca 1 3 dc 1 1 ca 1 a dc 1 4 1 1 3 dc 1 9 e6",
    "1 2 dc 1 2 e6 1 1 dc 2 2 e6 1 3 dc 1 0 e6 1 0 e8 1 1 dc 1 0 e6 1 0 e9 1 1 ea 1 0 e9 1 1 ea 1",
    "0 e9 1 c e6 114 4 e6 10a 0 dc 1 3 e6 1 0 dc 1 2 e6 1 0 de 1 0 dc 1 5 e6 1 5 dc 1 1 e6 1 0 dc",
    "1 1 e6 1 0 de 1 0 e4 1 0 e6 1 0 a 1 0 b 1 0 c 1 0 d 1 0 e 1 0 f 1 0 10 1 0 11 1 0 12 1 1 13",
    "1 0 14 1 0 15 1 0 16 2 0 17 2 0 18 1 0 19 2 0 e6 1 0 dc 2 0 12 1 0 15 1 0 a 47 7 e6 1 0 1e 1",
    "0 1f 1 0 20 31 0 1b 1 0 1c 1 0 1d 1 0 1e 1 0 1f 1 0 20 1 0 21 1 0 22 1 1 e6 1 1 dc 1 4 e6 1",
    "0 dc 1 1 e6 1 0 dc 11 0 23 66 6 e6 3 3 e6 1 0 dc 1 0 e6 3 1 e6 2 0 dc 1 1 e6 1 0 dc 24 0 24",
    "1f 0 e6 1 0 dc 1 1 e6 1 0 dc 1 1 e6 1 2 dc 1 0 e6 1 1 dc 1 0 e6 1 0 dc 1 2 e6 1 0 dc 1 0 e6",
    "1 0 dc 1 0 e6 1 0 dc 1 0 e6 1 0 dc 1 1 e6 a1 6 e6 1 0 dc 1 0 e6 a 0 dc 19 3 e6 2 8 e6 2 2 e6",
    "2 4 e6 2c 2 dc 3c 1 e6 1 2 dc 1 3 e6 2b 4 e6 1 4 dc 1 d e6 2 0 dc 1 1 e6 1 0 dc 1 1 e6 1 0",
    "dc 1 2 e6 1 2 dc 1 0 1b 1 0 1c 1 0 1d 1 2 e6 1 0 dc 1 1 e6 1 1 dc 1 4 e6 3d 0 7 11 0 9 4 0",
    "e6 1 0 dc 1 1 e6 68 0 7 11 0 9 31 0 e6 3e 0 7 11 0 9 6f 0 7 11 0 9 6f 0 7 11 0 9 80 0 9 6f 0",
    "7 11 0 9 8 0 54 1 0 5b 66 0 7 11 0 9 6e 1 9 11 0 9 7d 0 9 6e 1 67 1 0 9 e 3 6b 6d 1 76 1 0 9",
    "e 3 7a 4d 1 dc 1c 0 dc 2 0 dc 2 0 d8 38 0 81 1 0 82 2 0 84 6 3 82 3 0 82 2 1 e6 1 0 9 2 1 e6",
    "3f 0 dc 71 0 7 2 1 9 53 0 dc 2d0 2 e6 3b5 1 9 1f 0 9 9e 0 9 b 0 e6 cc 0 e4 90 0 de 1 0 e6 1",
    "0 dc dc 0 e6 1 0 dc 48 0 9 15 7 e6 3 0 dc 31 4 e6 1 5 dc 1 1 e6 1 0 dc 2 1 dc 1 1 e6 1 1 dc",
    "1 4 e6 1 0 dc 1 11 e6 1 0 dc 1 7 e6 1 0 dc 1 3 e6 1 0 ea 1 2 e6 46 0 7 10 0 9 27 0 e6 1 0 dc",
    "1 6 e6 37 1 9 3b 0 7 c 1 9 44 0 7 99 2 e6 2 0 1 1 4 dc 1 1 e6 1 3 dc 1 0 e6 2 6 1 5 0 dc 7 0",
    "e6 4 1 e6 c7 1 e6 1 0 dc 1 6 e6 1 0 dc 1 1 e6 1 0 ea 1 0 d6 1 0 dc 1 0 ca 1 24 e6 1 0 e8 1 1",
    "e4 1 0 dc 1 0 da 1 0 e6 1 0 e9 1 0 dc 1 0 e6 1 0 dc 2d1 1 e6 1 1 1 1 3 e6 1 2 1 1 1 e6 5 0",
    "e6 4 1 1 1 0 e6 1 0 dc 1 0 e6 1 1 1 1 3 dc 1 0 e6 bff 2 e6 8e 0 9 61 1f e6 22b 0 da 1 0 e4 1",
    "0 e8 1 0 de 1 1 e0 6a 1 8 75d5 0 e6 5 9 e6 21 1 e6 51 1 e6 115 0 9 26 0 9 98 0 9 1c 11 e6 3a",
    "2 dc 26 0 9 60 0 7 d 0 9 f0 0 e6 2 1 e6 1 0 dc 3 1 e6 6 1 e6 2 0 e6 35 0 9 f7 0 9 4f31 0 1a",
    "302 6 e6 1 6 dc 1 1 e6 3ce 0 dc e3 0 dc 96 4 e6 693 0 dc 2 0 e6 29 0 e6 1 0 1 1 0 dc 5 0 9",
    "a6 0 e6 1 0 dc 23e 3 e6 42 4 e6 13e 1 e6 1f 0 e6 25 9 e6 1 1 dc 2 2 dc 47 1 dc 1 2 e6 1 0 dc",
    "1 0 e6 1 3 dc 32 0 e6 1 0 dc 1 0 e6 1 0 dc c1 0 9 2a 0 9 f 0 9 3a 0 9 1 0 7 46 2 e6 31 1 9",
    "3f 0 7 4d 0 9 a 0 7 6b 0 9 1 0 7 b3 0 7 1 0 9 51 1 7 11 0 9 19 e e6 5a 2 9 72 0 9 4 0 7 18 0",
    "e6 64 0 9 1 0 7 fc 0 9 1 0 7 7f 0 9 77 0 9 1 0 7 74 0 9 10e 0 9 1 0 7 103 1 9 5 0 7 9d 0 9",
    "54 0 9 13 0 9 52 0 9 1a6 0 9 103 0 7 2 1 9 52 0 9 1aa 1 9 41ed 0 9 9c1 4 1 3c 6 e6 4ba 1 6",
    "4cad 0 1 14c7 1 d8 1 2 1 4 0 e2 1 4 d8 9 7 dc 3 4 e6 1 1 dc 1f 3 e6 95 2 e6 dbc 8f e6 a1 6",
    "e6 178 0 e6 3e 3 e6 1fd 1 e8 1 0 dc 1 0 e6 ff 0 e6 1 0 dc f4 0 e6 3 0 e6 8 1 e6 6 0 e6 1db 6",
    "dc 6e 5 e6 1 0 7"]

/-- The property Canonical_Combining_Class. Characters that start anew have class zero. -/
def classOf (c : Char) : Nat := ((Ranges.find? classes c.toNat).map (·.value)).getD 0

def virama : Nat := 9

end BearerCheck.Text.CombiningMark
