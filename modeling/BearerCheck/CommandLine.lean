import BearerCheck.Issuer.Endpoint
import BearerCheck.Log.Format
import BearerCheck.Settings.HostAlias
import BearerCheck.Settings.Loading

namespace BearerCheck.CommandLine

open Text

inductive Slot where
  | config
  | subject
  | algorithm
  | hostAlias
  | skew
  | timeout
  | logFormat
  deriving DecidableEq, Repr

inductive Switch where
  | help
  | version
  | value (slot : Slot)
  deriving DecidableEq, Repr

def Switch.ofName? (name : List Char) : Option Switch :=
  [("help", .help), ("version", .version), ("config", .value .config),
    ("allowed-subject", .value .subject), ("allowed-algorithm", .value .algorithm),
    ("host-alias", .value .hostAlias), ("clock-skew-secs", .value .skew),
    ("certs-timeout-secs", .value .timeout), ("log-format", .value .logFormat)].lookup
      (String.ofList name)

def Switch.ofLetter? (c : Char) : Option Switch :=
  match c with
  | 'h' => some .help
  | 'V' => some .version
  | 'c' => some (.value .config)
  | _ => none

structure Options where
  config : Option String := none
  overrides : Overrides := {}
  logFormat : Option Log.Format := none
  deriving DecidableEq, Repr

def once {α : Type} (old new : Option α) : Option (Option α) :=
  match old with
  | none => new.map some
  | some _ => none

def number? (text : String) : Option UInt64 := Unsigned.read? 10 (Unsigned.dropPlus text.toList)

namespace Options

def set? (o : Options) (text : String) : Slot → Option Options
  | .config => do
    let path ← once o.config (if text = "" then none else some text)
    return { o with config := path }
  | .subject => some { o with overrides.subjects := o.overrides.subjects ++ [text] }
  | .algorithm => some { o with overrides.algorithms := o.overrides.algorithms ++ [text] }
  | .hostAlias => do
    let entry ← (HostAlias.read text).toOption
    return { o with overrides.aliases := o.overrides.aliases ++ [entry] }
  | .skew => do return { o with overrides.skew := ← once o.overrides.skew (number? text) }
  | .timeout => do return { o with overrides.timeout := ← once o.overrides.timeout (number? text) }
  | .logFormat => do
    return { o with logFormat := ← once o.logFormat (Log.Format.ofName text).toOption }

def verifier (o : Options) (e : Environment)
    (file : Option (Except Settings.FileError (List UInt8))) (client : Issuer.Client) :
    Except Settings.LoadError Verifier := do
  let s ← Settings.final e file o.overrides
  return ⟨s.policy, some (Issuer.resolve s.certs.aliases client)⟩

end Options

inductive Request where
  | serve (o : Options)
  | tell (text : String)
  | misuse
  deriving DecidableEq, Repr

inductive Argument where
  | escape
  | long (name : List Char) (attached : Option (List Char))
  | short (letter : Char) (attached : List Char)
  | word
  deriving DecidableEq, Repr

def Argument.of : List Char → Argument
  | ['-', '-'] => .escape
  | '-' :: '-' :: r =>
    .long (r.takeWhile (· ≠ '='))
      (match r.dropWhile (· ≠ '=') with
        | _ :: value => some value
        | [] => none)
  | '-' :: c :: r => .short c r
  | _ => .word

def Argument.slot : Argument → Except Request (Slot × Option (List Char))
  | .long name attached =>
    match Switch.ofName? name, attached with
    | some .help, none => .error (.tell help)
    | some .version, none => .error (.tell version)
    | some (.value slot), _ => .ok (slot, attached)
    | _, _ => .error .misuse
  | .short letter attached =>
    match Switch.ofLetter? letter, attached with
    | some .help, _ => .error (.tell help)
    | some .version, _ => .error (.tell version)
    | some (.value slot), [] => .ok (slot, none)
    | some (.value slot), '=' :: value => .ok (slot, some value)
    | some (.value slot), value => .ok (slot, some value)
    | none, _ => .error .misuse
  | _ => .error .misuse
where
  version : String := "unsecured-jwt-info 0.1.0\n"
  help : String :=
    "Unsecured JWT token-info verifier for proxying network services\n\n" ++
    "Usage: unsecured-jwt-info [OPTIONS]\n\n" ++
    "Options:\n" ++
    "  -c, --config <CONFIG>\n" ++
    "          Optional YAML configuration file\n" ++
    "      --allowed-subject <SUB>\n" ++
    "          Allowed subject claim (repeatable; none = allow any)\n" ++
    "      --allowed-algorithm <ALG>\n" ++
    "          Allowed header algorithm (repeatable; none = allow any)\n" ++
    "      --host-alias <FROM=TO>\n" ++
    "          Rewrite an issuer host before fetching its certs, " ++
    "e.g. localhost=host.docker.internal\n" ++
    "      --clock-skew-secs <CLOCK_SKEW_SECS>\n" ++
    "          Tolerance for iat/exp checks in seconds\n" ++
    "      --certs-timeout-secs <CERTS_TIMEOUT_SECS>\n" ++
    "          Timeout for fetching issuer certs in seconds\n" ++
    "      --log-format <LOG_FORMAT>\n" ++
    "          Log output format (json or pretty) [default: json]\n" ++
    "  -h, --help\n" ++
    "          Print help\n" ++
    "  -V, --version\n" ++
    "          Print version\n"

def standsAlone (text : String) : Bool := Argument.of text.toList = .word

def readFrom (o : Options) : List String → Request
  | [] => .serve o
  | a :: rest =>
    match Argument.of a.toList with
    | .escape => if rest = [] then .serve o else .misuse
    | arg =>
      match arg.slot, rest with
      | .error r, _ => r
      | .ok (slot, some value), rest =>
        match o.set? (String.ofList value) slot with
        | some o => readFrom o rest
        | none => .misuse
      | .ok (_, none), [] => .misuse
      | .ok (slot, none), text :: rest =>
        match if standsAlone text then o.set? text slot else none with
        | some o => readFrom o rest
        | none => .misuse

def read (arguments : List String) : Request := readFrom {} arguments

end BearerCheck.CommandLine
