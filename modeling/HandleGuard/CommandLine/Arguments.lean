/-!
# Command-line arguments

Arguments are read from left to right, and the first one that is wrong decides the error. A long
option is written `--name`; its value is the rest after `=`, or the next argument, which must not
look like an option. No option may be given twice.

* `Argument.ofString`: what an argument looks like
* `readOptions`: the settings that the arguments of a command ask for
-/

namespace HandleGuard.CommandLine

/-- What is wrong with the arguments. -/
inductive ArgumentError where
  | unexpected (argument : String)
  | unexpectedValue (option : String)
  | missingValue (option : String)
  | badValue (option value : String)
  | repeated (option : String)
  | missingOption (option : String)
  | missingCommand
deriving DecidableEq, Repr

/-- The error in words. -/
def ArgumentError.message : ArgumentError → String
  | unexpected argument => "unexpected argument '" ++ argument ++ "'"
  | unexpectedValue option => "option '--" ++ option ++ "' takes no value"
  | missingValue option => "option '--" ++ option ++ "' needs a value"
  | badValue option value => "invalid value '" ++ value ++ "' for option '--" ++ option ++ "'"
  | repeated option => "option '--" ++ option ++ "' is given twice"
  | missingOption option => "option '--" ++ option ++ "' is missing"
  | missingCommand => "a command is missing"

/-- Why reading arguments ends early. -/
inductive EarlyEnd where
  | help
  | version
  | error (e : ArgumentError)
deriving DecidableEq, Repr

/-- What an argument looks like. -/
inductive Argument where
  /-- A word, which may be a value. A lone hyphen is one. -/
  | word (s : String)
  /-- A long option, with the value attached to it. -/
  | long (name : String) (value : Option String)
  /-- One or more short options, by letter. -/
  | short (letters : List Char)
  /-- Two hyphens: no option follows. -/
  | terminator
deriving DecidableEq, Repr

namespace Argument

/-- A long option is split at the first equals sign. -/
def ofLong (cs : List Char) : Argument :=
  let name := String.ofList (cs.takeWhile (· ≠ '='))
  match cs.dropWhile (· ≠ '=') with
  | [] => long name none
  | _ :: value => long name (some (String.ofList value))

/-- What an argument looks like. -/
def ofString (s : String) : Argument :=
  match s.toList with
  | ['-', '-'] => terminator
  | '-' :: '-' :: cs => ofLong cs
  | '-' :: c :: cs => short (c :: cs)
  | _ => word s

end Argument

/-- An option of a command, with what it does to the settings `σ`. -/
inductive CommandOption (σ : Type) where
  | flag (apply : σ → Except ArgumentError σ)
  | value (apply : String → σ → Except ArgumentError σ)

/-- Stores the value of an option that was not given before. -/
def setOnce {α : Type} (option : String) (old : Option α) (new : α) :
    Except ArgumentError (Option α) :=
  match old with
  | none => .ok (some new)
  | some _ => .error (.repeated option)

/-- The settings after the arguments of a command. Asking for help ends the reading. -/
def readOptions {σ : Type} (option? : String → Option (CommandOption σ)) :
    List String → σ → Except EarlyEnd σ
  | [], settings => .ok settings
  | argument :: rest, settings =>
    match Argument.ofString argument with
    | .word s => .error (.error (.unexpected s))
    | .terminator =>
      match rest with
      | [] => .ok settings
      | s :: _ => .error (.error (.unexpected s))
    | .short letters =>
      if letters.head? = some 'h' then .error .help
      else .error (.error (.unexpected argument))
    | .long "help" none => .error .help
    | .long name attached =>
      match option? name, attached with
      | none, _ => .error (.error (.unexpected argument))
      | some (.flag _), some _ => .error (.error (.unexpectedValue name))
      | some (.flag apply), none => do
        readOptions option? rest (← (apply settings).mapError .error)
      | some (.value apply), some value => do
        readOptions option? rest (← (apply value settings).mapError .error)
      | some (.value apply), none =>
        match rest with
        | [] => .error (.error (.missingValue name))
        | next :: rest =>
          match Argument.ofString next with
          | .word value => do
            readOptions option? rest (← (apply value settings).mapError .error)
          | _ => .error (.error (.missingValue name))

end HandleGuard.CommandLine
