import Lc3Lint.Text.Blank
import Lc3Lint.Text.CaseMap
import Lc3Lint.Text.Integer
import Lc3Lint.Text.Quoted
/-! Settings of an analysis (which checks run, whether warnings fail it, how many errors a report
lists), and how the environment sets them. -/
namespace Lc3Lint

structure Config where
  checkLabels : Bool := true
  checkRanges : Bool := true
  checkDuplicateLabels : Bool := true
  warningsAsErrors : Bool := false
  maxErrors : Int := 100
  deriving DecidableEq, Repr

inductive ConfigError where
  | limitBelowOne (n : Int)
  | notAFlag (name value : String)
  | notAnInteger (name value : String)
  | variableBelowOne (name value : String)
  deriving DecidableEq, Repr

def ConfigError.message : ConfigError → String
  | .limitBelowOne n => s!"max_errors must be at least 1, got {n}"
  | .notAFlag v value =>
    s!"{v} must be a boolean (1/0, true/false, yes/no, on/off), got {Text.quote value}"
  | .notAnInteger v value => s!"{v} must be an integer, got {Text.quote value}"
  | .variableBelowOne v value => s!"{v} must be at least 1, got {Text.quote value}"

namespace Config

def validate (c : Config) : Except ConfigError Config :=
  if c.maxErrors < 1 then .error (.limitBelowOne c.maxErrors) else .ok c

def duplicateLabelsVariable : String := "LC3_CHECK_DUPLICATE_LABELS"
def warningsVariable : String := "LC3_CHECK_WERROR"
def maxErrorsVariable : String := "LC3_CHECK_MAX_ERRORS"

def readFlag (name value : String) : Except ConfigError Bool :=
  let v := Text.lower (Text.trimBlank value)
  if v ∈ ["1", "true", "yes", "on"] then .ok true
  else if v ∈ ["0", "false", "no", "off"] then .ok false
  else .error (.notAFlag name value)

def readLimit (name value : String) : Except ConfigError Int :=
  match Text.readInteger? value with
  | some n => if n < 1 then .error (.variableBelowOne name value) else .ok n
  | none => .error (.notAnInteger name value)

def setValue? (env : String → Option String) (name : String) : Option String :=
  (env name).filter (!·.isEmpty)

def ofEnv (env : String → Option String) : Except ConfigError Config := do
  let c : Config := {}
  let c ← match setValue? env duplicateLabelsVariable with
    | some v => do pure { c with checkDuplicateLabels := ← readFlag duplicateLabelsVariable v }
    | none => pure c
  let c ← match setValue? env warningsVariable with
    | some v => do pure { c with warningsAsErrors := ← readFlag warningsVariable v }
    | none => pure c
  match setValue? env maxErrorsVariable with
  | some v => do pure { c with maxErrors := ← readLimit maxErrorsVariable v }
  | none => pure c

end Config

end Lc3Lint
