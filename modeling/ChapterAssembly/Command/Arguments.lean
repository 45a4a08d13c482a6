/-
**The arguments of a command.**

Arguments are read from left to right.  An option is written `--name value`, `--name=value`, `-n value`,
`-nvalue` or `-n=value`, and switches of one letter may share a dash.  An argument with a dash in
front is never the value of the option before it.  Behind `--` no argument is an option.

Main definitions:

* `ChapterAssembly.Opt`, `Form` — an option, and the options that a command has;
* `ChapterAssembly.UsageError` — what is wrong with arguments;
* `Form.read` — what is given by arguments, or why reading them ends before.

Main results:

* `Given.value?_add` — an option has the value that was given.
-/

import ChapterAssembly.Text.Basic

set_option relaxedAutoImplicit false
set_option autoImplicit false

namespace ChapterAssembly

/-- What an option is for. -/
inductive OptKind where
  /-- It is given or not. -/
  | switch
  /-- It has a value of the accepted ones. -/
  | value (accepts : Text → Bool)
  /-- It asks for help. -/
  | help
  /-- It asks for the version. -/
  | version

/-- An option. -/
structure Opt where
  long : Text
  short : Option Char := none
  kind : OptKind := .value fun _ => true

/-- What is wrong with arguments. -/
inductive UsageError where
  | unexpected (argument : Text)
  /-- An option lacks its value. -/
  | noValue (option : Text)
  /-- A switch has a value. -/
  | needlessValue (option : Text)
  | invalidValue (option value : Text)
  | repeated (option : Text)
  | missing (argument : Text)
deriving Repr, DecidableEq

/-- The wording of an error. -/
def UsageError.message : UsageError → Text
  | .unexpected a => "unexpected argument '" ++ a ++ "' found"
  | .noValue o => "a value is required for '--" ++ o ++ "' but none was supplied"
  | .needlessValue o => "unexpected value for '--" ++ o ++ "' found; no more were expected"
  | .invalidValue o v => "invalid value '" ++ v ++ "' for '--" ++ o ++ "'"
  | .repeated o => "the argument '--" ++ o ++ "' cannot be used multiple times"
  | .missing a => "the following required arguments were not provided: " ++ a

/-- Why reading ends before all arguments are read. -/
inductive Stop where
  | help
  | version
  | usage (error : UsageError)
deriving Repr, DecidableEq

/-- What is given by arguments. -/
structure Given where
  /-- The options with their values; a switch has an empty one. -/
  values : List (Text × Text) := []
  /-- The arguments that are no options. -/
  plain : List Text := []
deriving Repr, DecidableEq

namespace Given

/-- The value of an option. -/
def value? (g : Given) (long : Text) : Option Text := g.values.lookup long

/-- An option is given. -/
def has (g : Given) (long : Text) : Bool := (g.value? long).isSome

/-- What is given, with one option more. -/
def add (g : Given) (o : Opt) (value : Text) : Except Stop Given :=
  match o.kind with
  | .help => .error .help
  | .version => .error .version
  | .switch =>
    if g.has o.long then .error (.usage (.repeated o.long))
    else .ok { g with values := (o.long, value) :: g.values }
  | .value accepts =>
    if g.has o.long then .error (.usage (.repeated o.long))
    else if accepts value then .ok { g with values := (o.long, value) :: g.values }
    else .error (.usage (.invalidValue o.long value))

/-- **An option has the value that was given.** -/
theorem value?_add {g h : Given} {o : Opt} {value : Text} (he : g.add o value = .ok h) :
    h.value? o.long = some value := by
  unfold add at he
  split at he
  · cases he
  · cases he
  · split at he
    · cases he
    · cases he
      simp [value?]
  · split at he
    · cases he
    · split at he
      · cases he
        simp [value?]
      · cases he

end Given

/-- The options of a command, and how many other arguments it takes.  A command with commands of its
own leaves the first argument that is no option, and all behind it, to them. -/
structure Form where
  options : List Opt
  plain : Nat := 0
  commands : Bool := false

namespace Form

/-- How an argument looks. -/
inductive Shape where
  | separator
  | long (name : Text) (value : Option Text)
  | short (letters : Text)
  | plain

/-- How an argument looks. -/
def shape : Text → Shape
  | ['-', '-'] => .separator
  | '-' :: '-' :: t =>
    match Text.cutAt? "=" t with
    | some (name, value) => .long name (some value)
    | none => .long t none
  | '-' :: c :: t => .short (c :: t)
  | _ => .plain

/-- What is given by letters behind a dash, and the option at their end that needs a value. -/
def letters (f : Form) (g : Given) : Text → Except Stop (Given × Option Opt)
  | [] => .ok (g, none)
  | c :: t =>
    match f.options.find? (·.short == some c) with
    | none => .error (.usage (.unexpected ['-', c]))
    | some o =>
      match o.kind, t with
      | .value _, [] => .ok (g, some o)
      | .value _, '=' :: v => (g.add o v).map (·, none)
      | .value _, v => (g.add o v).map (·, none)
      | _, t => do letters f (← g.add o []) t

/-- What is given by a long option, and the option if it needs a value. -/
def longOption (f : Form) (g : Given) (name : Text) (value : Option Text) :
    Except Stop (Given × Option Opt) :=
  match f.options.find? (·.long == name) with
  | none => .error (.usage (.unexpected (['-', '-'] ++ name)))
  | some o =>
    match o.kind, value with
    | .value _, none => .ok (g, some o)
    | .value _, some v => (g.add o v).map (·, none)
    | _, none => (g.add o []).map (·, none)
    | _, some _ => .error (.usage (.needlessValue name))

/-- What is given by an argument that is no option. -/
def plainArgument (f : Form) (g : Given) (a : Text) : Except Stop Given :=
  if g.plain.length < f.plain then .ok { g with plain := g.plain ++ [a] }
  else .error (.usage (.unexpected a))

/-- What is given by arguments, and those that are left to commands; `pending` is an option whose
value comes next, and `free` says that no more options come. -/
def readFrom (f : Form) (g : Given) (pending : Option Opt) (free : Bool) :
    List Text → Except Stop (Given × List Text)
  | [] =>
    match pending with
    | some o => .error (.usage (.noValue o.long))
    | none => .ok (g, [])
  | a :: rest =>
    if free then do readFrom f (← f.plainArgument g a) none true rest
    else
      match pending, shape a with
      | some o, .plain => do readFrom f (← g.add o a) none false rest
      | some o, _ => .error (.usage (.noValue o.long))
      | none, .separator => readFrom f g none true rest
      | none, .long name value => do
        let (g, pending) ← f.longOption g name value
        readFrom f g pending false rest
      | none, .short ls => do
        let (g, pending) ← f.letters g ls
        readFrom f g pending false rest
      | none, .plain =>
        if f.commands then .ok (g, a :: rest)
        else do readFrom f (← f.plainArgument g a) none false rest

/-- What is given by arguments, and those that are left to commands. -/
def read (f : Form) (arguments : List Text) : Except Stop (Given × List Text) :=
  f.readFrom {} none false arguments

end Form

end ChapterAssembly
