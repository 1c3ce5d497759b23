import BearerCheck.Url.Percent

namespace BearerCheck.Url.Segments

def split (backslash : Bool) : List Char → List (List Char)
  | [] => [[]]
  | c :: r =>
    if c = '/' ∨ (backslash ∧ c = '\\') then [] :: split backslash r
    else
      match split backslash r with
      | s :: ss => (c :: s) :: ss
      | [] => [[c]]

def isUnseen (c : Char) : Bool := c = '\t' || c = '\n' || c = '\r'

def visible (s : List Char) : List Char := s.filter (!isUnseen ·)

def dots? : List Char → Option Nat
  | [] => some 0
  | '.' :: r => (dots? r).map (· + 1)
  | '%' :: '2' :: 'e' :: r => (dots? r).map (· + 1)
  | '%' :: '2' :: 'E' :: r => (dots? r).map (· + 1)
  | _ => none

def isDrive : List Char → Bool
  | [c, d] => c.isAlpha && (d = ':' || d = '|')
  | _ => false

def up : List (List Char) → List (List Char)
  | [] => []
  | s :: r => if isDrive s then s :: r else r

def push (done : List (List Char)) (s : List Char) : List (List Char) :=
  Percent.encode Percent.pathSet (visible s) :: done

def cutDrive? (s : List Char) : Option (List Char × List Char) :=
  match s.dropWhile isUnseen with
  | [] => none
  | c :: r =>
    match r.dropWhile isUnseen with
    | ':' :: u :: r =>
      if c.isAlpha ∧ isUnseen u ∧ visible r ≠ [] then some ([c, ':'], visible r) else none
    | _ => none

/-- As `push` for the path of a file: if the first segment is a drive and more, it becomes two. -/
def pushFile (done : List (List Char)) (s : List Char) : List (List Char) :=
  match done, cutDrive? s with
  | [], some (drive, r) => push [drive] r
  | _, _ => push done s

def settleDrive : List (List Char) → List (List Char)
  | [] => []
  | s :: r => (if isDrive (visible s) then (visible s).take 1 ++ [':'] else s) :: r

/-- The segments kept, when `done` are those before, last first, and `add` puts one in front of
them. A dot segment at the end leaves an empty one. -/
def resolve (add : List (List Char) → List Char → List (List Char)) (done : List (List Char)) :
    List (List Char) → List (List Char)
  | [] => done.reverse
  | s :: r =>
    match dots? (visible s) with
    | some 1 => if r = [] then ([] :: done).reverse else resolve add done r
    | some 2 => if r = [] then ([] :: up done).reverse else resolve add (up done) r
    | _ => resolve add (add done s) r

def text (ss : List (List Char)) : String := String.ofList (ss.flatMap ('/' :: ·))

def dropEmpty : List (List Char) → List (List Char)
  | [] :: s :: r => dropEmpty (s :: r)
  | ss => ss

end BearerCheck.Url.Segments
