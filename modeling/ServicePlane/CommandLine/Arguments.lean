/-!
# Command lines

The grammar of arguments that both programs share. Options that take a value come first, in a long
or a short form, each at most once; the value stands in the same argument or is the next one, which
then must not look like an option. After two hyphens nothing is an option any more. A request for
help ends the reading, as does the first misuse.
-/

namespace ServicePlane

/-- An option that takes a value. -/
structure OptionSpec where
  short : Char
  long : String
  /-- Whether the value may be empty. -/
  emptyAllowed : Bool
  deriving DecidableEq, Repr

/-- Why no command is run. -/
inductive ArgumentStop where
  | help
  | misuse
  deriving DecidableEq, Repr

namespace ArgumentStop

def exitCode : ArgumentStop → UInt8
  | help => 0
  | misuse => 2

end ArgumentStop

/-- Options that were read, and the arguments from the first one that is none. -/
structure Arguments where
  /-- The values of options by their long names. -/
  values : List (String × String)
  rest : List String
  /-- Whether two hyphens stand in front of the rest. -/
  escaped : Bool
  deriving DecidableEq, Repr

namespace Arguments

def looksLikeOption (argument : String) : Bool :=
  match argument.toList with
  | '-' :: _ :: _ => true
  | _ => false

def give (values : List (String × String)) (o : OptionSpec) (value : String) :
    Except ArgumentStop (List (String × String)) :=
  if (values.lookup o.long).isSome then .error .misuse
  else if value.isEmpty && !o.emptyAllowed then .error .misuse
  else .ok (values ++ [(o.long, value)])

/-- What an argument asks for. -/
inductive Word where
  /-- An option, with its value if that stands in the same argument. -/
  | option (o : OptionSpec) (value : Option String)
  | stop (reason : ArgumentStop)
  /-- Two hyphens. -/
  | escape
  | plain
  deriving DecidableEq, Repr

/-- A long option, from behind its hyphens. -/
def longWord (options : List OptionSpec) (cs : List Char) : Word :=
  let name := String.ofList (cs.takeWhile (· ≠ '='))
  let value :=
    match cs.dropWhile (· ≠ '=') with
    | '=' :: rest => some (String.ofList rest)
    | _ => none
  if name = "help" then .stop (if value.isSome then .misuse else .help)
  else
    match options.find? fun o => o.long == name with
    | some o => .option o value
    | none => .stop .misuse

/-- A short option, from its letter. An equals sign may stand in front of the value. -/
def shortWord (options : List OptionSpec) (letter : Char) (cs : List Char) : Word :=
  if letter = 'h' then .stop .help
  else
    match options.find? fun o => o.short == letter with
    | none => .stop .misuse
    | some o =>
        match cs with
        | [] => .option o none
        | '=' :: value => .option o (some (String.ofList value))
        | value => .option o (some (String.ofList value))

def word (options : List OptionSpec) (argument : String) : Word :=
  match argument.toList with
  | ['-', '-'] => .escape
  | '-' :: '-' :: cs => longWord options cs
  | '-' :: letter :: cs => shortWord options letter cs
  | _ => .plain

def read (options : List OptionSpec) (values : List (String × String)) :
    List String → Except ArgumentStop Arguments
  | [] => .ok ⟨values, [], false⟩
  | argument :: rest =>
      match word options argument with
      | .stop reason => .error reason
      | .escape => .ok ⟨values, rest, true⟩
      | .plain => .ok ⟨values, argument :: rest, false⟩
      | .option o (some value) =>
          match give values o value with
          | .error e => .error e
          | .ok values => read options values rest
      | .option o none =>
          match rest with
          | [] => .error .misuse
          | value :: rest =>
              -- A lone hyphen is a value, two hyphens are not.
              if looksLikeOption value then .error .misuse
              else
                match give values o value with
                | .error e => .error e
                | .ok values => read options values rest

/-- Read arguments of which none is an option with a value; at most so many. -/
def readPlain : (most : Nat) → List String → Except ArgumentStop (List String)
  | most, arguments =>
      match arguments with
      | [] => .ok []
      | argument :: rest =>
          match word [] argument with
          | .stop reason => .error reason
          | .escape => if rest.length ≤ most then .ok rest else .error .misuse
          | .option _ _ => .error .misuse
          | .plain =>
              match most with
              | 0 => .error .misuse
              | most + 1 => do return argument :: (← readPlain most rest)

end Arguments

end ServicePlane
