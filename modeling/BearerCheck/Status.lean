namespace BearerCheck

inductive Status where
  | ok
  | emptyToken
  | parseFailed
  | wrongAlgorithm
  | unauthorized
  | noIssueTime
  | noExpirationTime
  | tooEarly
  | expired
  deriving DecidableEq, Repr

namespace Status

def code : Status → Nat
  | .ok => 0
  | .emptyToken => 1
  | .parseFailed => 2
  | .wrongAlgorithm => 3
  | .unauthorized => 4
  | .noIssueTime => 5
  | .noExpirationTime => 6
  | .tooEarly => 7
  | .expired => 8

def ofCode? : Int → Option Status
  | 0 => some .ok
  | 1 => some .emptyToken
  | 2 => some .parseFailed
  | 3 => some .wrongAlgorithm
  | 4 => some .unauthorized
  | 5 => some .noIssueTime
  | 6 => some .noExpirationTime
  | 7 => some .tooEarly
  | 8 => some .expired
  | _ => none

def text : Status → String
  | .ok => "ok"
  | .emptyToken => "empty token"
  | .parseFailed => "parse JWT failed"
  | .wrongAlgorithm => "wrong algorithm"
  | .unauthorized => "unauthorized"
  | .noIssueTime => "no issue time in token"
  | .noExpirationTime => "no expiration time in token"
  | .tooEarly => "token too early"
  | .expired => "token expired"

theorem ofCode?_code (s : Status) : ofCode? s.code = some s := by cases s <;> rfl

end Status

end BearerCheck
