import OneBit.Command
import OneBit.Decimal.Read

/-!
# The command line

    pack INPUT OUTPUT [--word-bits N] [--threshold X]
    unpack INPUT OUTPUT [--dtype T] [--scale X] [--zero-point N]
    inspect PATH...
    verify PATH

Options may stand anywhere after the command, as `--name value` or `--name=value`, each at most
once. After `--` everything is a path. A value that starts with a dash has to be attached with `=`,
except a negative number for the options that say so; a lone dash is an ordinary word.
-/

namespace OneBit.CommandLine

open Ieee Decimal

/-- An option of a command. -/
structure OptionRule where
  name : String
  /-- Whether the next word may be a negative number. -/
  negative : Bool := false

/-- The words of a command line by role. -/
structure Words where
  paths : List String
  options : List (String × String)

def dashes : List Char := ['-', '-']

/-- A word that looks like an option. -/
def startsWithDash (word : String) : Bool :=
  match word.toList with
  | '-' :: _ :: _ => true
  | _ => false

/-- Digits with at most one point after the first of them, and an exponent mark that is neither
first nor last; no signs. -/
def looksLikeNumber (text : List Char) : Bool :=
  let isMark := fun c => c == 'e' || c == 'E'
  let mantissa := text.takeWhile fun c => !isMark c
  let plain := mantissa.filter (· != '.')
  let marked := text.dropWhile fun c => !isMark c
  plain.all Char.isDigit && mantissa.length ≤ plain.length + 1 && mantissa.head? != some '.'
    && match marked with
      | [] => true
      | _ :: digits => mantissa != [] && digits != [] && digits.all Char.isDigit

/-- Whether a word can be the value of an option that waits for one. -/
def canBeValue (rule : OptionRule) (word : String) : Bool :=
  !startsWithDash word ||
    (rule.negative && looksLikeNumber (word.toList.drop 1))

/-- Sorts words into paths and options. -/
def sortWords (rules : List OptionRule) : List String → Option Words
  | [] => some ⟨[], []⟩
  | word :: rest =>
    if word = "--" then some ⟨rest, []⟩
    else if dashes.isPrefixOf word.toList then
      let text := word.toList.drop 2
      let name := String.ofList (text.takeWhile (· != '='))
      match rules.find? fun rule => rule.name = name with
      | none => none
      | some rule =>
        match text.dropWhile (· != '='), rest with
        | _ :: value, rest =>
          (sortWords rules rest).map fun words =>
            { words with options := (name, String.ofList value) :: words.options }
        | [], value :: rest =>
          if canBeValue rule value then
            (sortWords rules rest).map fun words =>
              { words with options := (name, value) :: words.options }
          else none
        | [], [] => none
    else if startsWithDash word then none
    else (sortWords rules rest).map fun words => { words with paths := word :: words.paths }

/-- The value of an option, which may be left out but not repeated or unreadable. -/
def Words.option? {α : Type} (words : Words) (name : String) (read : String → Option α) :
    Option (Option α) :=
  match words.options.filter fun (other, _) => other = name with
  | [] => some none
  | [(_, value)] => (read value).map some
  | _ => none

/-! ## Values -/

def size? (text : String) : Option Nat := do
  let n ← unsigned? text.toList
  if n < sizeLimit then some n else none

def int32? (text : String) : Option Int32 := do
  let n ← int? text.toList
  if -2147483648 ≤ n ∧ n ≤ 2147483647 then some (Int32.ofInt n) else none

def single? (text : String) : Option Binary32 :=
  Decimal.single? text.toList

/-- The element types that can be asked for, with their short names. -/
def dtype? (text : String) : Option DType :=
  if text = "float32" ∨ text = "f32" then some .float32
  else if text = "int8" ∨ text = "i8" then some .int8
  else if text = "bool" then some .bool
  else none

/-! ## Commands -/

def packRules : List OptionRule :=
  [{ name := "word-bits" }, { name := "threshold", negative := true }]

def unpackRules : List OptionRule :=
  [{ name := "dtype" }, { name := "scale" }, { name := "zero-point", negative := true }]

/-- Paths are not empty. -/
def sorted? (rules : List OptionRule) (words : List String) : Option Words := do
  let words ← sortWords rules words
  if words.paths.all (· != "") then some words else none

def pack? (words : List String) : Option Command := do
  let words ← sorted? packRules words
  let wordBits ← words.option? "word-bits" size?
  let threshold ← words.option? "threshold" single?
  match words.paths with
  | [input, output] =>
    some (.pack input output
      { wordBits := wordBits.getD 32, threshold := threshold.getD Binary32.zero })
  | _ => none

def unpack? (words : List String) : Option Command := do
  let words ← sorted? unpackRules words
  let dtype ← words.option? "dtype" dtype?
  let scale ← words.option? "scale" single?
  let zeroPoint ← words.option? "zero-point" int32?
  match words.paths with
  | [input, output] => some (.unpack input output { dtype, scale, zeroPoint })
  | _ => none

def inspect? (words : List String) : Option Command := do
  match (← sorted? [] words).paths with
  | [] => none
  | paths => some (.inspect paths)

def verify? (words : List String) : Option Command := do
  match (← sorted? [] words).paths with
  | [path] => some (.verify path)
  | _ => none

/-- The command that the words ask for; none when they do not make one. -/
def parse : List String → Option Command
  | "pack" :: words => pack? words
  | "unpack" :: words => unpack? words
  | "inspect" :: words => inspect? words
  | "verify" :: words => verify? words
  | _ => none

/-! ## Running -/

/-- How a run ends. -/
inductive Outcome
  | done
  | failed (message : String)
  /-- The words make no command. -/
  | misused
deriving DecidableEq, Repr

def Outcome.exitCode : Outcome → UInt32
  | done => 0
  | failed _ => 1
  | misused => 2

/-- Parses and runs a command. -/
def run {m : Type → Type} [Monad m] [Host m] (words : List String) : m Outcome := do
  match parse words with
  | none => return .misused
  | some command =>
    match ← (command.run : ExceptT CommandError m Unit).run with
    | .ok () => return .done
    | .error e => return .failed ("Error: " ++ e.message)

end OneBit.CommandLine
