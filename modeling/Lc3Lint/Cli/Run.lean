import Lc3Lint.Cli.Command
import Lc3Lint.Cli.Path
import Lc3Lint.Session
import Lc3Lint.Text.Utf8
/-! One run of the checker on the command line, and its exit status: 0 when the check passes, 1 when
it fails, 2 for a usage, settings or encoding error, 3 when the analysis aborts. -/
namespace Lc3Lint.Cli

structure Outcome where
  exitCode : Nat
  stdout : String
  stderr : String
  deriving DecidableEq, Repr

/-- The outcome as a runner that captures both streams reports it: carriage return and line feed
pairs read back as line feeds. -/
def Outcome.captured (o : Outcome) : Outcome :=
  { o with stdout := o.stdout.replace "\r\n" "\n", stderr := o.stderr.replace "\r\n" "\n" }

def stripControl : List Char → List Char
  | '\x1b' :: '[' :: rest =>
    let params := rest.takeWhile fun c => c.isDigit || c = ';' || c = '?'
    match _hrest : rest.drop params.length with
    | c :: after => if c.isAlpha then stripControl after else '\x1b' :: stripControl ('[' :: rest)
    | [] => '\x1b' :: stripControl ('[' :: rest)
  | c :: rest => c :: stripControl rest
  | [] => []
termination_by cs => cs.length
decreasing_by
  · have := congrArg List.length _hrest
    simp only [List.length_cons, List.length_drop] at this ⊢
    omega
  all_goals simp only [List.length_cons]; omega

def plain (s : String) : String := String.ofList (stripControl s.toList)

structure Transcript where
  out : String := ""
  err : String := ""
  deriving DecidableEq, Repr

namespace Transcript

def say (t : Transcript) (line : String) : Transcript := { t with out := t.out ++ plain line ++ "\n" }

def warn (t : Transcript) (line : String) : Transcript := { t with err := t.err ++ plain line ++ "\n" }

def write (t : Transcript) (line : String) : Transcript := { t with out := t.out ++ line ++ "\n" }

def writeErr (t : Transcript) (line : String) : Transcript := { t with err := t.err ++ line ++ "\n" }

def finish (t : Transcript) (code : Nat) : Outcome := ⟨code, t.out, t.err⟩

end Transcript

def versionText : String := "lc3check, version 1.0.0"

def usageLine : String := "Usage: main [OPTIONS] INPUT_FILE"

def helpText : String := "\n".intercalate [
  usageLine, "",
  "  Check LC-3 assembly source for errors.", "",
  "  INPUT_FILE is the assembly source file (.asm) to check.", "",
  "  The checker reports syntax errors, undefined and duplicate labels, malformed",
  "  numbers and literals that do not fit their instruction field. No machine code",
  "  is produced.", "",
  "  Examples:",
  "      lc3check countdown.asm               # Check a file",
  "      lc3check -W countdown.asm            # Fail on warnings too",
  "      lc3check countdown.asm --print-ast   # Show parsed nodes", "",
  "Options:",
  "  --print-tokens              Print the token stream",
  "  --print-ast                 Print the parsed nodes",
  "  -W, --warnings-as-errors    Treat warnings as errors (exit code 1 on any",
  "                              warning)",
  "  --allow-duplicate-labels    Do not report labels declared more than once",
  "  --max-errors INTEGER RANGE  Stop listing errors after N (default: 100)  [x>=1]",
  "  --color / --no-color        Force or disable colored output (default: auto-",
  "                              detect)",
  "  -v, --verbose               Verbose output",
  "  --version                   Show the version and exit.",
  "  --help                      Show this message and exit."]

def usageFailure (e : UsageError) : Outcome :=
  let t : Transcript := {}
  let t := if e.showsUsage then t.warn (usageLine ++ "\nTry 'main --help' for help.\n") else t
  (t.warn ("Error: " ++ e.message)).finish 2

structure Request where
  path : String
  bytes : List UInt8
  printTokens : Bool := false
  printAst : Bool := false
  warningsAsErrors : Bool := false
  allowDuplicateLabels : Bool := false
  maxErrors : Option Int := none
  color : Option Bool := none
  verbose : Bool := false
  deriving DecidableEq, Repr

/-- What settling a command line leads to: a check to run, text to show and stop, or a stop
without a word because the input path cannot be looked up. -/
inductive Settled where
  | check (r : Request)
  | show (text : String)
  | halt
  deriving DecidableEq, Repr

def readLimit (value : String) : Except UsageError Int :=
  match Text.readInteger? value with
  | some n => if n < 1 then .error (.limitBelowOne n) else .ok n
  | none => .error (.limitNotInteger value)

def settleIn (occ : List Occurrence) (positional : List String) (lookup : String → Entry) :
    List Param → Option Int → Option (String × List UInt8) → Except UsageError Settled
  | [], limit, input =>
    match input, positional.drop 1 with
    | some (path, bytes), [] =>
      .ok (.check { path, bytes, printTokens := flagSet occ .printTokens,
                    printAst := flagSet occ .printAst,
                    warningsAsErrors := flagSet occ .warningsAsErrors,
                    allowDuplicateLabels := flagSet occ .allowDuplicateLabels,
                    maxErrors := limit,
                    color := (lastValue? occ .color).bind fun v => match v with
                      | .inl b => some b
                      | .inr _ => none,
                    verbose := flagSet occ .verbose })
    | some _, extra => .error (.extraArguments extra)
    | none, _ => .error .missingInput
  | p :: ps, limit, input =>
    match p with
    | .version => if flagSet occ .version then .ok (.show versionText) else settleIn occ positional lookup ps limit input
    | .help => if flagSet occ .help then .ok (.show helpText) else settleIn occ positional lookup ps limit input
    | .maxErrors =>
      match lastValue? occ .maxErrors with
      | some (.inr v) =>
        match readLimit v with
        | .ok n => settleIn occ positional lookup ps (some n) input
        | .error e => .error e
      | _ => settleIn occ positional lookup ps limit input
    | .inputFile =>
      match positional with
      | path :: _ =>
        match lookup path with
        | .file bytes => settleIn occ positional lookup ps limit (some (path, bytes))
        | .directory => .error (.inputIsDirectory path)
        | .missing => .error (.inputMissing path)
        | .refused => .ok .halt
      | [] => .error .missingInput
    | _ => settleIn occ positional lookup ps limit input

def settle (args : List String) (lookup : String → Entry) : Except UsageError Settled := do
  let (occ, positional) ← splitArguments args
  settleIn occ positional lookup (settlingOrder occ) none none

def inputPath? (args : List String) : Option String :=
  match splitArguments args with
  | .ok (_, path :: _) => some path
  | _ => none

def terminalStyle : SeverityStyle := fun severity word =>
  let colour := match severity with
    | .error => "\x1b[31m"
    | .warning => "\x1b[33m"
  colour ++ "\x1b[1m" ++ word ++ "\x1b[0m"

def Request.config (r : Request) (c : Config) : Config :=
  { c with warningsAsErrors := c.warningsAsErrors || r.warningsAsErrors,
           checkDuplicateLabels := c.checkDuplicateLabels && !r.allowDuplicateLabels,
           maxErrors := r.maxErrors.getD c.maxErrors }

def Request.narrate (r : Request) (t : Transcript) (name : String) (s : Session) : Transcript :=
  if r.verbose then
    let t := (t.write s!"Analyzing {name}...").write
      s!"Parsed {s.nodes.length} nodes from {s.tokens.length} tokens"
    s.progress.foldl (fun t line => t.writeErr ("DEBUG: " ++ line)) t
  else t

def Request.present (r : Request) (t : Transcript) (name : String) (s : Session) : Outcome :=
  let t := r.narrate t name s
  let t := if r.verbose then t.write s.summary else t
  let t := if r.printTokens then s.tokens.foldl (fun t tok => t.say tok.render) t else t
  let t := if r.printAst then s.nodes.foldl (fun t n => t.say n.render) t else t
  let t := if s.diagnostics.isEmpty then t.say s.summary
    else if r.color = some true then t.writeErr (s.report terminalStyle)
    else t.warn (s.report terminalStyle)
  t.finish (if s.hasErrors then 1 else 0)

def Request.check (r : Request) (env : String → Option String) : Outcome :=
  let t : Transcript := {}
  match Config.ofEnv env with
  | .error e => (t.warn ("Configuration error: " ++ e.message)).finish 2
  | .ok c =>
    let c := r.config c
    let strict := if c.warningsAsErrors then "yes" else "no"
    let duplicates := if c.checkDuplicateLabels then "enabled" else "disabled"
    let t := if r.verbose then
        (t.say s!"Warnings as errors: {strict}").say s!"Duplicate label check: {duplicates}"
      else t
    match Text.decodeUtf8 r.bytes with
    | .error e => (t.warn ("Error: input is not valid UTF-8: " ++ e.message)).finish 2
    | .ok text =>
      let name := normalPath r.path
      match (Session.start c).analyze (String.ofList (Text.unifyLineEnds text.toList)) name with
      | .error a =>
        ((r.narrate t name a.left).warn ("Internal error: " ++ a.abort.message)).finish 3
      | .ok s => r.present t name s

/-- A front end of the command line: it reads the arguments, with the files that a lookup finds,
into a check to run, or ends the run itself with an outcome (help, version, usage errors). -/
def Front : Type := List String → (String → Entry) → Except Outcome Request

def readCommandLine : Front := fun args lookup =>
  match settle args lookup with
  | .error e => .error (usageFailure e)
  | .ok (.show text) => .error ((({} : Transcript).say text).finish 0)
  | .ok .halt => .error (({} : Transcript).finish 1)
  | .ok (.check r) => .ok r

/-- Runs the checker on a command line read by `front`, with the environment and the files that
`lookup` finds. -/
def run (front : Front) (args : List String) (env : String → Option String)
    (lookup : String → Entry) : Outcome :=
  match front args lookup with
  | .error o => o
  | .ok r => r.check env

end Lc3Lint.Cli
