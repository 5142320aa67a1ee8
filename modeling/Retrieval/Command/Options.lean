import Retrieval.Text.Lines

namespace Retrieval.Command

structure Options where
  valued : List String
  switches : List String
  deriving DecidableEq, Repr

/-- What was given on a command line and in the environment. A switch has an empty value. -/
structure Given where
  options : List (String × String)
  environment : List (String × String)
  deriving DecidableEq, Repr

namespace Options

def name? (arg : String) : Option (String × Option String) :=
  match arg.toList with
  | '-' :: '-' :: cs =>
    let name := cs.takeWhile (· != '=')
    match cs.drop name.length with
    | [] => some (String.ofList name, none)
    | _ :: value => some (String.ofList name, some (String.ofList value))
  | _ => none

def isValue (arg : String) : Bool :=
  arg == "-" || arg.toList.head? != some '-'

/-- Reads the arguments behind a command. Each option may be given once, and there is nothing but
options. -/
def readFrom (o : Options) (found : List (String × String)) :
    List String → Option (List (String × String))
  | [] => some found
  | ["--"] => some found
  | arg :: args =>
    match name? arg with
    | none => none
    | some (name, value) =>
      if (found.lookup name).isSome then none
      else if name ∈ o.valued then
        match value with
        | some v => readFrom o ((name, v) :: found) args
        | none =>
          match args with
          | v :: args => if isValue v then readFrom o ((name, v) :: found) args else none
          | [] => none
      else if name ∈ o.switches ∧ value = none then readFrom o ((name, "") :: found) args
      else none

def read (o : Options) (environment : List (String × String)) (args : List String) : Option Given :=
  (o.readFrom [] args).map (⟨·, environment⟩)

end Options

namespace Given

def text? (g : Given) (name : String) : Option String :=
  g.options.lookup name

def has (g : Given) (name : String) : Bool :=
  (g.text? name).isSome

variable {α : Type}

def optional (g : Given) (name : String) (read : String → Option α) : Option (Option α) :=
  match g.text? name with
  | none => some none
  | some v => (read v).map some

def path? (s : String) : Option String :=
  if s.isEmpty then none else some s

def pathOr (g : Given) (name setting : String) : Option (Option String) :=
  match (g.text? name).or (g.environment.lookup setting) with
  | none => some none
  | some v => (path? v).map some

end Given

end Retrieval.Command
