import Lc3Lint.Text.Quoted
import Lc3Lint.Text.Integer
import Lc3Lint.Text.Similarity
/-! The command line: one input file and options. Arguments are first split into occurrences and
positional arguments, then the parameters are settled one by one, eager ones first. -/
namespace Lc3Lint.Cli

inductive Param where
  | inputFile | printTokens | printAst | warningsAsErrors | allowDuplicateLabels | maxErrors
  | color | verbose | version | help
  deriving DecidableEq, Repr

namespace Param

def declared : List Param :=
  [inputFile, printTokens, printAst, warningsAsErrors, allowDuplicateLabels, maxErrors, color,
    verbose, version, help]

def isEager : Param → Bool
  | version | help => true
  | _ => false

def takesValue : Param → Bool
  | maxErrors => true
  | _ => false

end Param

def longOptions : List (String × Param × Bool) :=
  [("--print-tokens", .printTokens, true), ("--print-ast", .printAst, true),
    ("--warnings-as-errors", .warningsAsErrors, true),
    ("--allow-duplicate-labels", .allowDuplicateLabels, true), ("--max-errors", .maxErrors, true),
    ("--color", .color, true), ("--no-color", .color, false), ("--verbose", .verbose, true),
    ("--version", .version, true), ("--help", .help, true)]

def shortOptions : List (String × Param) := [("-W", .warningsAsErrors), ("-v", .verbose)]

structure Occurrence where
  param : Param
  value : Sum Bool String
  deriving DecidableEq, Repr

inductive UsageError where
  | noSuchOption (name : String) (candidates : List String)
  | needsValue (name : String)
  | takesNoValue (name : String)
  | limitNotInteger (value : String)
  | limitBelowOne (value : Int)
  | missingInput
  | inputMissing (path : String)
  | inputIsDirectory (path : String)
  | extraArguments (args : List String)
  deriving DecidableEq, Repr

def UsageError.message : UsageError → String
  | .noSuchOption name candidates =>
    let sorted := candidates.mergeSort fun a b => Text.charsLe a.toList b.toList
    let listed := ", ".intercalate sorted
    match sorted with
    | [] => s!"No such option: {name}"
    | [_] => s!"No such option: {name} Did you mean {listed}?"
    | _ => s!"No such option: {name} (Possible options: {listed})"
  | .needsValue name => s!"Option {Text.quote name} requires an argument."
  | .takesNoValue name => s!"Option {Text.quote name} does not take a value."
  | .limitNotInteger value =>
    s!"Invalid value for '--max-errors': {Text.quote value} is not a valid integer range."
  | .limitBelowOne value => s!"Invalid value for '--max-errors': {value} is not in the range x>=1."
  | .missingInput => "Missing argument 'INPUT_FILE'."
  | .inputMissing path => s!"Invalid value for 'INPUT_FILE': File {Text.quote path} does not exist."
  | .inputIsDirectory path => s!"Invalid value for 'INPUT_FILE': File '{path}' is a directory."
  | .extraArguments args =>
    let listed := " ".intercalate args
    if args.length = 1 then s!"Got unexpected extra argument ({listed})"
    else s!"Got unexpected extra arguments ({listed})"

/-- Whether the error is shown under the usage line. A missing value and a value given to a flag
are found while the arguments are split, before the command they belong to is known, and are
shown alone. -/
def UsageError.showsUsage : UsageError → Bool
  | .needsValue _ | .takesNoValue _ => false
  | _ => true

def splitValue (arg : String) : String × Option String :=
  match arg.toList.span (· != '=') with
  | (name, '=' :: value) => (String.ofList name, some (String.ofList value))
  | (name, _) => (String.ofList name, none)

def readShortCluster (arg : String) : Except UsageError (List Occurrence) :=
  (arg.toList.drop 1).mapM fun c =>
    let name := String.ofList ['-', c]
    match shortOptions.lookup name with
    | some p => .ok ⟨p, .inl true⟩
    | none => .error (.noSuchOption name [])

def readOption (arg : String) (rest : List String) : Except UsageError (List Occurrence × Nat) :=
  let (name, attached) := splitValue arg
  match longOptions.find? (·.1 == name) with
  | some (_, p, flag) =>
    if p.takesValue then
      match attached, rest with
      | some v, _ => .ok ([⟨p, .inr v⟩], 0)
      | none, v :: _ => .ok ([⟨p, .inr v⟩], 1)
      | none, [] => .error (.needsValue name)
    else if attached.isSome then .error (.takesNoValue name)
    else .ok ([⟨p, .inl flag⟩], 0)
  | none =>
    if arg.startsWith "--" then
      .error (.noSuchOption name (Text.closeMatches name (longOptions.map (·.1)) 3))
    else (readShortCluster arg).map fun occ => (occ, 0)

def splitArguments : List String → Except UsageError (List Occurrence × List String)
  | [] => .ok ([], [])
  | arg :: rest =>
    if arg = "--" then .ok ([], rest)
    else if arg.startsWith "-" && arg.length > 1 then
      match readOption arg rest with
      | .ok (occ, used) =>
        match splitArguments (rest.drop used) with
        | .ok (more, positional) => .ok (occ ++ more, positional)
        | .error e => .error e
      | .error e => .error e
    else (splitArguments rest).map fun (occ, positional) => (occ, arg :: positional)
termination_by args => args.length
decreasing_by all_goals simp only [List.length_drop, List.length_cons]; omega

/-- The order in which parameters are settled: eager ones first, then by first occurrence (the
input file after every option), then by declaration. A given `--help` is settled after every other
eager parameter, since the command makes its help option afresh on each look. -/
def settlingOrder (occ : List Occurrence) : List Param :=
  let given := ((occ.map Occurrence.param).filter (· != .help) ++ [Param.inputFile]).eraseDups
  let rank (p : Param) : Nat := (given.idxOf? p).getD given.length
  Param.declared.mergeSort fun a b =>
    (a.isEager && !b.isEager) || (a.isEager == b.isEager && rank a ≤ rank b)

def lastValue? (occ : List Occurrence) (p : Param) : Option (Sum Bool String) :=
  ((occ.filter (·.param == p)).getLast?).map (·.value)

def flagSet (occ : List Occurrence) (p : Param) : Bool :=
  match lastValue? occ p with
  | some (.inl b) => b
  | _ => false

end Lc3Lint.Cli
