import HookKeeper.Operator.Error
import HookKeeper.Text.Digits

/-!
# Log levels and placeholders in templates

The operator resource names one of four log levels; leaving it out, or empty,
means the first.  The program that is kept takes its verbosity as a number.

A template names two settings by placeholders: the image to run and the
verbosity to log with.  Filling a template in replaces every placeholder of
the image first and then every placeholder of the verbosity, in the text that
the first replacement gave.
-/

/-! ## Log levels -/

namespace HookKeeper

/-- How much the kept program logs. -/
inductive LogLevel where
  | normal
  | debug
  | trace
  | traceAll
  deriving DecidableEq, Repr

namespace LogLevel

def name : LogLevel → String
  | .normal => "Normal"
  | .debug => "Debug"
  | .trace => "Trace"
  | .traceAll => "TraceAll"

def verbosity : LogLevel → Nat
  | .normal => 2
  | .debug => 4
  | .trace => 6
  | .traceAll => 8

def ofName? (value : String) : Option LogLevel :=
  if value = "Normal" then some .normal
  else if value = "Debug" then some .debug
  else if value = "Trace" then some .trace
  else if value = "TraceAll" then some .traceAll
  else none

@[simp]
theorem ofName?_name (level : LogLevel) : ofName? level.name = some level := by
  cases level <;> decide

/-- The level of an optional setting. -/
def parse : Option String → Except OperatorError LogLevel
  | none => .ok .normal
  | some value =>
      if value = "" then .ok .normal
      else
        match ofName? value with
        | some level => .ok level
        | none => .error (.invalidLogLevel value)

end LogLevel

end HookKeeper

/-! ## Placeholders -/

namespace HookKeeper.Manifest

open HookKeeper.Text

/--
The text with every occurrence of a pattern replaced, from left to right and
without overlaps, passing over the first `skip` characters.
-/
def replaceFrom (pattern replacement : List Char) : Nat → List Char → List Char
  | _, [] => []
  | skip + 1, _ :: rest => replaceFrom pattern replacement skip rest
  | 0, character :: rest =>
      if pattern.isPrefixOf (character :: rest) then
        replacement ++ replaceFrom pattern replacement (pattern.length - 1) rest
      else character :: replaceFrom pattern replacement 0 rest

/-- The text with every occurrence of a pattern replaced. -/
def replaceAll (pattern replacement text : List Char) : List Char :=
  replaceFrom pattern replacement 0 text

/-- A setting that a template leaves open. -/
inductive Placeholder where
  | image
  | verbosity
  deriving DecidableEq, Repr

/-- The text that stands for a setting in a template. -/
def Placeholder.text : Placeholder → String
  | .image => "$\x7bWEBHOOK_IMAGE\x7d"
  | .verbosity => "$\x7bLOG_LEVEL\x7d"

/-- The characters that stand for a setting in a template. -/
def Placeholder.pattern (placeholder : Placeholder) : List Char :=
  placeholder.text.toList

/-- A template with its settings filled in. -/
def filled (template image : List Char) (level : LogLevel) : List Char :=
  replaceAll Placeholder.verbosity.pattern (Digits.ofNat level.verbosity)
    (replaceAll Placeholder.image.pattern image template)

/--
A template with its settings filled in; an unknown log level is refused first.
-/
def fillIn
    (template image : String)
    (logLevel : Option String) : Except OperatorError String := do
  let level ← LogLevel.parse logLevel
  return String.ofList (filled template.toList image.toList level)

end HookKeeper.Manifest
