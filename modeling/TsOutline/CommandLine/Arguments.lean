import TsOutline.Text.Digit
import TsOutline.Text.Line
import TsOutline.Text.Quoted

/-!
# Command-Line Arguments

Reading arguments against a usage: long options that may be shortened to a unique beginning and take
their value in the same or in the next argument, and at most one positional argument, which may stand
before or after them. `--` ends the options.

Reading yields a trace: what was given, in order, up to the first fault. Whoever interprets the trace
converts values as they come, so that the first fault in the order of the arguments is the one that is
reported.
-/

namespace TsOutline.CommandLine

open Text (join quoted startsWith)

/-! ## §1 Usages -/

/-- What the options mean. -/
inductive Key where
  | help
  | config
  | typeDepth
  | exportedOnly
  | blacklist
  | format
  | noTypes
  | workspace
  deriving Repr, DecidableEq

/-- An option: its names, and whether it takes a value. -/
structure Switch where
  key : Key
  names : List String
  takesValue : Bool
  deriving Repr, DecidableEq

/-- How messages name an option. -/
def Switch.label (s : Switch) : String :=
  join "/" s.names

/-- How many arguments are positional. -/
inductive Arity where
  /-- Exactly one. -/
  | one
  /-- At most one. -/
  | atMostOne
  /-- A command and everything after it. -/
  | command
  deriving Repr, DecidableEq

/-- A positional argument with the name that messages use. -/
structure Positional where
  label : String
  arity : Arity
  deriving Repr, DecidableEq

/-- What a program, or one of its commands, accepts. -/
structure Usage where
  program : String
  switches : List Switch
  positional : Option Positional

/-- All option names with their options, in order. -/
def Usage.spellings (u : Usage) : List (String × Switch) :=
  u.switches.flatMap fun s => s.names.map fun n => (n, s)

/-- The option of a name. -/
def Usage.switch? (u : Usage) (name : String) : Option Switch :=
  (u.spellings.find? fun p => p.1 == name).map (·.2)

/-! ## §2 Faults -/

/-- What is wrong with arguments. -/
inductive Fault where
  | ambiguous (spelling : String) (candidates : List String)
  | needsValue (label : String)
  | strayValue (label value : String)
  | badInteger (label value : String)
  | badChoice (label value : String) (choices : List String)
  | missing (label : String)
  | unrecognized (arguments : List String)
  deriving Repr, DecidableEq

/-- The wording of a fault. -/
def Fault.message : Fault → String
  | ambiguous spelling candidates =>
    "ambiguous option: " ++ spelling ++ " could match " ++ join ", " candidates
  | needsValue label => "argument " ++ label ++ ": expected one argument"
  | strayValue label value =>
    "argument " ++ label ++ ": ignored explicit argument " ++ quoted value
  | badInteger label value => "argument " ++ label ++ ": invalid int value: " ++ quoted value
  | badChoice label value choices =>
    "argument " ++ label ++ ": invalid choice: " ++ quoted value ++ " (choose from " ++
      join ", " (choices.map quoted) ++ ")"
  | missing label => "the following arguments are required: " ++ label
  | unrecognized arguments => "unrecognized arguments: " ++ join " " arguments

/-! ## §3 Kinds of arguments -/

/-- What an argument is taken for. -/
inductive ArgKind where
  /-- A value or positional argument. -/
  | plain
  /-- The mark that ends the options. -/
  | dashes
  /-- A known option under one of its names, perhaps with its value. -/
  | known (switch : Switch) (name : String) (value? : Option String)
  /-- Something that looks like an option and is none. -/
  | unknown
  deriving Repr, DecidableEq

/-- An argument and what it is taken for. -/
structure Arg where
  text : String
  kind : ArgKind
  deriving Repr, DecidableEq

/-- The text before the first equals sign, and what follows it. -/
def splitValue (s : String) : String × Option String :=
  match s.toList.dropWhile (· ≠ '=') with
  | _ :: value => (String.ofList (s.toList.takeWhile (· ≠ '=')), some (String.ofList value))
  | [] => (s, none)

/-- A decimal digit of any script. -/
def isDigit (c : Char) : Bool :=
  (Text.digitValue? c).isSome

/-- A negative number: digits, or a point among digits with at least one after it. A line feed at the
    end does not matter. -/
def isNegativeNumber (s : String) : Bool :=
  match s.toList with
  | '-' :: cs =>
    let body := if cs.getLast? == some '\n' then cs.dropLast else cs
    match body.dropWhile isDigit with
    | [] => !body.isEmpty
    | '.' :: rest => !rest.isEmpty && rest.all isDigit
    | _ => false
  | _ => false

/-- The options that a spelling can stand for, with the value it carries: those whose name it begins,
    or, after a single dash, the short one that it starts with. -/
def candidates (u : Usage) (s : String) : List (String × Switch × Option String) :=
  if startsWith s "--" then
    let (start, value?) := splitValue s
    (u.spellings.filter fun p => startsWith p.1 start).map fun p => (p.1, p.2, value?)
  else
    u.spellings.filterMap fun p =>
      if p.1.toList == s.toList.take 2 then some (p.1, p.2, some (String.ofList (s.toList.drop 2)))
      else if startsWith p.1 s then some (p.1, p.2, none)
      else none

/-- What an argument with a dash in front is taken for, if it is no exact option name. -/
def classifyDashed (u : Usage) (s : String) : Except Fault ArgKind :=
  match candidates u s with
  | [(name, switch, value?)] => .ok (.known switch name value?)
  | [] => .ok (if isNegativeNumber s || s.toList.contains ' ' then .plain else .unknown)
  | several => .error (.ambiguous s (several.map (·.1)))

/-- What an argument before the end of the options is taken for. -/
def classify (u : Usage) (s : String) : Except Fault ArgKind :=
  if s = "--" then .ok .dashes
  else if !startsWith s "-" then .ok .plain
  else
    match u.switch? s with
    | some switch => .ok (.known switch s none)
    | none =>
      if s = "-" then .ok .plain
      else
        match splitValue s with
        | (name, some value) =>
          match u.switch? name with
          | some switch => .ok (.known switch name (some value))
          | none => classifyDashed u s
        | (_, none) => classifyDashed u s

/-- What all arguments are taken for; after the mark everything is plain. -/
def classifyAll (u : Usage) : List String → Except Fault (List Arg)
  | [] => .ok []
  | s :: rest =>
    match classify u s with
    | .error fault => .error fault
    | .ok .dashes => .ok (⟨s, .dashes⟩ :: rest.map fun t => ⟨t, .plain⟩)
    | .ok kind =>
      match classifyAll u rest with
      | .error fault => .error fault
      | .ok args => .ok (⟨s, kind⟩ :: args)

/-! ## §4 Traces -/

/-- Something that the arguments give. -/
inductive Event where
  /-- An option with its values: none for a flag, one otherwise. -/
  | option (switch : Switch) (values : List String)
  /-- The positional arguments. -/
  | positional (values : List String)
  deriving Repr, DecidableEq

/-- What arguments give, in order, what is left over, and the first fault. -/
structure Trace where
  events : List Event
  extras : List String
  fault? : Option Fault

/-- A trace that ends here. -/
def Trace.done : Trace := ⟨[], [], none⟩

/-- A trace that ends in a fault. -/
def Trace.failed (fault : Fault) : Trace := ⟨[], [], some fault⟩

/-- An event before a trace. -/
def Trace.after (event : Event) (t : Trace) : Trace := { t with events := event :: t.events }

/-- Arguments left over before a trace. -/
def Trace.leaving (texts : List String) (t : Trace) : Trace := { t with extras := texts ++ t.extras }

/-- Values without the first mark that ends the options. -/
def dropDashes (values : List String) : List String :=
  values.erase "--"

/-- The argument is the mark that ends the options. -/
def Arg.isDashes (a : Arg) : Bool :=
  a.kind == .dashes

/-- The argument is a value. -/
def Arg.isPlain (a : Arg) : Bool :=
  a.kind == .plain

/-- How many arguments from here on are positional; none if they do not suffice. -/
def positionalCount? (arity : Arity) (args : List Arg) : Option Nat :=
  let dashes := (args.takeWhile Arg.isDashes).length
  match arity, args.drop dashes with
  | .command, a :: _ => if a.isPlain then some args.length else none
  | .command, [] => none
  | .one, a :: rest =>
    if a.isPlain then some (dashes + 1 + (rest.takeWhile Arg.isDashes).length) else none
  | .one, [] => none
  | .atMostOne, a :: rest =>
    if a.isPlain then some (dashes + 1 + (rest.takeWhile Arg.isDashes).length) else some dashes
  | .atMostOne, [] => some dashes

/-- The values of positional arguments; a command keeps every argument as it is. -/
def positionalValues (arity : Arity) (args : List Arg) : List String :=
  let texts := args.map (·.text)
  if arity = .command then texts else dropDashes texts

/-- What the short option does with characters attached to it: the option repeated is the option,
    anything else is a stray value. -/
def attachedRest (name value : String) : Option String :=
  if value = "" then some value
  else if startsWith name "--" then some value
  else
    match value.toList.dropWhile fun c => name.toList == ['-', c] with
    | [] => none
    | rest => some (String.ofList rest)

/-- A positional argument that is still missing. -/
def missingFault? : Option Positional → Option Fault
  | some ⟨label, .one⟩ => some (.missing label)
  | some ⟨label, .command⟩ => some (.missing label)
  | _ => none

/-- Reads arguments; `pending` is the positional argument that is still to come. -/
def readFrom (pending : Option Positional) : (args : List Arg) → Trace
  | [] => { Trace.done with fault? := missingFault? pending }
  | ⟨text, .unknown⟩ :: rest => (readFrom pending rest).leaving [text]
  | ⟨_, .known switch name value?⟩ :: rest =>
    match value?, switch.takesValue with
    | some value, true => (readFrom pending rest).after (.option switch (dropDashes [value]))
    | some value, false =>
      match attachedRest name value with
      | none => (readFrom pending rest).after (.option switch [])
      | some stray => .failed (.strayValue switch.label stray)
    | none, false => (readFrom pending rest).after (.option switch [])
    | none, true =>
      match rest with
      | ⟨value, .plain⟩ :: others => (readFrom pending others).after (.option switch [value])
      | _ => .failed (.needsValue switch.label)
  | a :: rest =>
    match pending with
    | none => (readFrom none rest).leaving [a.text]
    | some p =>
      match positionalCount? p.arity (a :: rest) with
      | some (n + 1) =>
        (readFrom none (rest.drop n)).after
          (.positional (positionalValues p.arity ((a :: rest).take (n + 1))))
      | _ => (readFrom pending rest).leaving [a.text]
termination_by args => args.length

/-- What arguments give under a usage. -/
def read (u : Usage) (args : List String) : Trace :=
  match classifyAll u args with
  | .error fault => .failed fault
  | .ok args => readFrom u.positional args

end TsOutline.CommandLine
