import BearerCheck.Fault
import BearerCheck.Service.Message
import BearerCheck.Text.Trim
import BearerCheck.Verifier.Basic

/-!
A session answers requests, one a line, until its input ends or its output is full. Blank lines are
passed over. A line that holds no request is answered like a token that cannot be read.
-/

namespace BearerCheck.Service

open Text

structure Tally where
  requests : Nat
  accepted : Nat
  malformed : Nat
  deriving DecidableEq, Repr

structure Answer where
  response : Response
  calls : List Call
  malformed : Bool

def answer (v : Verifier) (now : Int64) (line : List UInt8) : Answer :=
  match Request.read line with
  | .ok q =>
    let verdict := v.verify now q.token
    ⟨.ofStatus verdict.status, verdict.calls, false⟩
  | .error _ => ⟨.ofStatus .parseFailed, [], true⟩

def Answer.line (a : Answer) : List UInt8 := a.response.print ++ [Ascii.lineFeed]

def Tally.add (t : Tally) (a : Answer) : Tally :=
  ⟨t.requests + 1, t.accepted + a.response.success.toNat, t.malformed + a.malformed.toNat⟩

def takeLine (s : List UInt8) : List UInt8 × List UInt8 :=
  (s.takeWhile (· ≠ Ascii.lineFeed), (s.dropWhile (· ≠ Ascii.lineFeed)).drop 1)

/-- The first line with its answer, if it has one, and the input behind that line. -/
def step (v : Verifier) (now : Int64) (input : List UInt8) : Option Answer × List UInt8 :=
  let (line, rest) := takeLine input
  match middle isLineBlank line with
  | [] => (none, rest)
  | c :: cs => (some (answer v now (c :: cs)), rest)

structure Transcript where
  written : List UInt8
  calls : List Call
  ending : Except Fault Tally

def outputFull : Fault := .io "write zero"

/-- Whether an output with so much room takes some bytes, and the room left then. No bound is no
end of room. -/
def roomAfter (room : Option Nat) (count : Nat) : Option (Option Nat) :=
  match room with
  | none => some none
  | some n => if count ≤ n then some (some (n - count)) else none

/-- Goes on after the requests tallied so far; the next is checked at `clock` of their number. Each
line takes a byte at least, so that as many lines as bytes are all of them. -/
def run (v : Verifier) (clock : Nat → Int64) : Nat → Tally → Option Nat → List UInt8 → Transcript
  | 0, tally, _, _ => ⟨[], [], .ok tally⟩
  | _ + 1, tally, _, [] => ⟨[], [], .ok tally⟩
  | n + 1, tally, room, b :: input =>
    match step v (clock tally.requests) (b :: input) with
    | (none, rest) => run v clock n tally room rest
    | (some a, rest) =>
      match roomAfter room a.line.length with
      | none => ⟨a.line.take (room.getD 0), a.calls, .error outputFull⟩
      | some room =>
        let later := run v clock n (tally.add a) room rest
        ⟨a.line ++ later.written, a.calls ++ later.calls, later.ending⟩

def serve (v : Verifier) (clock : Nat → Int64) (room : Option Nat) (input : List UInt8) :
    Transcript :=
  run v clock input.length ⟨0, 0, 0⟩ room input

end BearerCheck.Service
