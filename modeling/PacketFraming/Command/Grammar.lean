/-! The grammar of command line arguments.

An option is given as `--name value` or `--name=value`, a flag as `--name`, and `--` ends
the options. The value of an option is judged only when the argument after it has been
recognised, so of two faults the one that is noticed first need not stand first. -/

namespace PacketFraming.Command

inductive Stop
  /-- They are refused, some with a sentence about the value in question. -/
  | usage (detail : Option String)
  | version
deriving DecidableEq, Repr

inductive Action (σ : Type)
  | flag (set : σ → σ)
  | value (repeatable : Bool) (set : String → σ → Except Stop σ)
  | stop (reason : Stop)

inductive Words (σ : Type)
  | none
  | single (set : String → σ → Except Stop σ)
  | commands (names : List String)

structure Grammar (σ : Type) where
  action? : String → Option (Action σ)
  /-- What a one-letter option does; none of them takes a value. -/
  letter? : Char → Option Stop
  words : Words σ

/-- An option that waits for its value, or for its value to be judged. -/
structure Pending (σ : Type) where
  name : String
  repeatable : Bool
  set : String → σ → Except Stop σ
  value : Option String

structure Scan (σ : Type) where
  state : σ
  /-- Names of the options and flags that have been judged. -/
  given : List String
  pending : Option (Pending σ)
  wordCount : Nat
  trailing : Bool

namespace Scan

def ofState (state : σ) : Scan σ where
  state := state
  given := []
  pending := none
  wordCount := 0
  trailing := false

/-- Applies an option. One that may not be repeated is refused the second time. -/
def apply (scan : Scan σ) (name : String) (repeatable : Bool)
    (set : σ → Except Stop σ) : Except Stop (Scan σ) :=
  if !repeatable && scan.given.contains name then .error (.usage none)
  else (set scan.state).map fun state => { scan with state, given := name :: scan.given }

/-- Judges the pending option, whose value must have been given. -/
def settle (scan : Scan σ) : Except Stop (Scan σ) :=
  match scan.pending with
  | none => .ok scan
  | some pending =>
      match pending.value with
      | none => .error (.usage none)
      | some value =>
          { scan with pending := none }.apply pending.name pending.repeatable
            (pending.set value)

end Scan

def splitOption (body : List Char) : String × Option String :=
  let name := String.ofList (body.takeWhile (· != '='))
  match body.dropWhile (· != '=') with
  | [] => (name, none)
  | _ :: value => (name, some (String.ofList value))

namespace Grammar

/-- Reads a long option. Unknown options, and values for flags, are refused before the
pending option is judged. -/
def readOption (grammar : Grammar σ) (scan : Scan σ) (body : List Char) :
    Except Stop (Scan σ) :=
  let (name, attached) := splitOption body
  match grammar.action? name, attached with
  | none, _ => .error (.usage none)
  | some (.flag set), none => do
      let scan ← scan.settle
      scan.apply name false fun state => .ok (set state)
  | some (.flag _), some _ => .error (.usage none)
  | some (.stop reason), none => do
      let _ ← scan.settle
      .error reason
  | some (.stop _), some _ => .error (.usage none)
  | some (.value repeatable set), some value => do
      let scan ← scan.settle
      scan.apply name repeatable (set value)
  | some (.value repeatable set), none => do
      let scan ← scan.settle
      .ok { scan with pending := some { name, repeatable, set, value := none } }

def readWord (scan : Scan σ) (set : String → σ → Except Stop σ) (word : String) :
    Except Stop (Scan σ) := do
  let scan ← scan.settle
  if scan.wordCount = 0 then
    let state ← set word scan.state
    .ok { scan with state, wordCount := 1 }
  else .error (.usage none)

/-- Whether an argument looks like an option; a lone dash is a word. -/
def looksLikeOption (argument : String) : Bool :=
  match argument.toList with
  | '-' :: _ :: _ => true
  | _ => false

/-- Reads arguments up to the end, or up to the name of a command, which is returned with
the arguments after it. -/
def read (grammar : Grammar σ) :
    Scan σ → List String → Except Stop (Scan σ × Option (String × List String))
  | scan, [] => .ok (scan, none)
  | scan, argument :: rest =>
      let waiting := match scan.pending with
        | some pending => if pending.value.isNone then some pending else none
        | none => none
      if scan.trailing then
        match grammar.words with
        | .single set => do
            let scan ← readWord scan set argument
            read grammar scan rest
        | _ => .error (.usage none)
      else match waiting with
        | some pending =>
            if looksLikeOption argument then .error (.usage none)
            else
              read grammar
                { scan with pending := some { pending with value := some argument } } rest
        | none =>
            match argument.toList with
            | ['-', '-'] => read grammar { scan with trailing := true } rest
            | '-' :: '-' :: body => do
                let scan ← grammar.readOption scan body
                read grammar scan rest
            | '-' :: letter :: _ =>
                match grammar.letter? letter with
                | some reason => do
                    let _ ← scan.settle
                    .error reason
                | none => .error (.usage none)
            | _ =>
                match grammar.words with
                | .none => .error (.usage none)
                | .single set => do
                    let scan ← readWord scan set argument
                    read grammar scan rest
                | .commands names =>
                    if names.contains argument then .ok (scan, some (argument, rest))
                    else .error (.usage none)

end Grammar

end PacketFraming.Command
