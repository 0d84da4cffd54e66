import Provenance.Text.Decimal

/-!
# Arguments of the command line

The program has two commands.  `replay` follows a plan through its lifecycle and `flatten` lists
the nodes of its job; each takes the path of a plan.  Options may stand anywhere, in front of the
command as far as they do not belong to it.  A double hyphen ends them.

An option with a value takes it behind an equals sign, or from the next argument if that does not
look like an option.  No option may be given twice, and arguments are read from left to right, so
that a request for help counts unless something in front of it is wrong.
-/

namespace Provenance.CommandLine

/-- What help is asked for. -/
inductive Topic where
  | program
  | replay
  | flatten
  | help
  deriving Repr, DecidableEq

/-- What the program is asked to do. -/
inductive Request where
  | replay (plan : String) (config appName fail : Option String) (job : UInt64)
  | flatten (plan : String)
  | help (topic : Topic)
  | version
  deriving Repr, DecidableEq

/-- Why the arguments are not read to their end. -/
inductive Stop where
  /-- Help is asked for. -/
  | help
  /-- The version is asked for. -/
  | version
  /-- The arguments are not understood. -/
  | misuse
  deriving Repr, DecidableEq

/-! ## Single arguments -/

/-- The kinds of arguments. -/
inductive Argument where
  /-- A double hyphen. -/
  | escape
  /-- A word behind two hyphens, with a value if there is an equals sign. -/
  | long (name : String) (value : Option String)
  /-- Letters behind one hyphen. -/
  | short (letters : List Char)
  /-- Anything else, a lone hyphen included. -/
  | plain (s : String)

/-- The kind of an argument. -/
def Argument.of (s : String) : Argument :=
  match s.toList with
  | ['-', '-'] => escape
  | '-' :: '-' :: cs =>
    match cs.span (· ≠ '=') with
    | (name, _ :: value) => long (String.ofList name) (some (String.ofList value))
    | (name, []) => long (String.ofList name) none
  | '-' :: c :: cs => short (c :: cs)
  | _ => plain s

/-- Whether an argument can be the value of the option in front of it. -/
def Argument.isValue : Argument → Bool
  | plain _ => true
  | _ => false

/-! ## Options -/

/-- An option with a value. -/
inductive Setting where
  | config
  | appName
  | fail
  | job
  deriving Repr, DecidableEq

/-- The word for an option. -/
def Setting.name : Setting → String
  | config => "config"
  | appName => "app-name"
  | fail => "fail"
  | job => "job-id"

/-- The number of a job: decimal digits, possibly behind a plus sign, of a number of 64 bits. -/
def jobNumber? (s : String) : Option UInt64 :=
  let digits := match s.toList with
    | '+' :: cs => cs
    | cs => cs
  let n := Decimal.value digits
  if digits.isEmpty || !digits.all (·.isDigit) || UInt64.size ≤ n then none else some (.ofNat n)

/-- Whether an option takes a value: a path may not be empty, and a job has a number. -/
def Setting.accepts (k : Setting) (value : String) : Bool :=
  match k with
  | config => !value.isEmpty
  | job => (jobNumber? value).isSome
  | _ => true

/-- The arguments of a command as far as they have been read. -/
structure Given where
  verbose : Bool
  plan : Option String
  settings : List (Setting × String)

namespace Given

/-- Nothing has been read. -/
def empty : Given :=
  ⟨false, none, []⟩

/-- Take an argument that is no option: the path of the plan. -/
def addPlain (g : Given) (s : String) : Except Stop Given :=
  if s.isEmpty || g.plan.isSome then .error .misuse else .ok { g with plan := some s }

/-- Take an option with its value. -/
def set (g : Given) (k : Setting) (value : String) : Except Stop Given :=
  if g.settings.any (·.1 = k) || !k.accepts value then .error .misuse
  else .ok { g with settings := (k, value) :: g.settings }

/-- Take the option that makes the program more talkative. -/
def setVerbose (g : Given) : Except Stop Given :=
  if g.verbose then .error .misuse else .ok { g with verbose := true }

/-- Take options of one letter; `top` says that they stand in front of the command. -/
def addLetters (top : Bool) (g : Given) : List Char → Except Stop Given
  | [] => .ok g
  | 'v' :: cs => do addLetters top (← g.setVerbose) cs
  | 'h' :: _ => .error .help
  | 'V' :: _ => if top then .error .version else .error .misuse
  | _ => .error .misuse

/-- The value of an option. -/
def value? (g : Given) (k : Setting) : Option String :=
  g.settings.lookup k

end Given

/-- Read the arguments behind a command that knows the given options; `escaped` says that options
have ended. -/
def readArguments (known : List Setting) (escaped : Bool) (g : Given) :
    List String → Except Stop Given
  | [] => .ok g
  | arg :: rest =>
    if escaped then do readArguments known true (← g.addPlain arg) rest
    else match Argument.of arg with
      | .escape => readArguments known true g rest
      | .plain s => do readArguments known false (← g.addPlain s) rest
      | .short letters => do readArguments known false (← g.addLetters false letters) rest
      | .long "verbose" none => do readArguments known false (← g.setVerbose) rest
      | .long "help" none => .error .help
      | .long name value =>
        match known.find? (·.name = name), value, rest with
        | some k, some v, rest => do readArguments known false (← g.set k v) rest
        | some k, none, v :: rest' =>
          if (Argument.of v).isValue then do readArguments known false (← g.set k v) rest'
          else .error .misuse
        | _, _, _ => .error .misuse
termination_by args => args.length

/-! ## Commands -/

/-- The request of a command with its arguments, about whose topic help may be asked. -/
def ofGiven (topic : Topic) (given : Except Stop Given)
    (request : String → Given → Request) : Except Stop Request :=
  match given with
  | .error .help => .ok (.help topic)
  | .error stop => .error stop
  | .ok g => match g.plan with
    | some plan => .ok (request plan g)
    | none => .error .misuse

/-- The request of a command. -/
def ofCommand (name : String) (args : List String) : Except Stop Request :=
  match name, args with
  | "replay", args =>
    ofGiven .replay (readArguments [.config, .appName, .fail, .job] false .empty args)
      fun plan g => .replay plan (g.value? .config) (g.value? .appName) (g.value? .fail)
        (((g.value? .job).bind jobNumber?).getD 0)
  | "flatten", args =>
    ofGiven .flatten (readArguments [] false .empty args) fun plan _ => .flatten plan
  | "help", [] => .ok (.help .program)
  | "help", ["replay"] => .ok (.help .replay)
  | "help", ["flatten"] => .ok (.help .flatten)
  | "help", ["help"] => .ok (.help .help)
  | _, _ => .error .misuse

/-- Read the arguments from the first option or command on. -/
def readProgram (g : Given) : List String → Except Stop Request
  | [] => .error .misuse
  | arg :: rest =>
    match Argument.of arg with
    | .plain name => ofCommand name rest
    | .short letters => do readProgram (← g.addLetters true letters) rest
    | .long "verbose" none => do readProgram (← g.setVerbose) rest
    | .long "help" none => .error .help
    | .long "version" none => .error .version
    | _ => .error .misuse

/-- What the arguments ask for; `none` if they are not understood. -/
def request? (args : List String) : Option Request :=
  match readProgram .empty args with
  | .ok r => some r
  | .error .help => some (.help .program)
  | .error .version => some .version
  | .error .misuse => none

end Provenance.CommandLine
