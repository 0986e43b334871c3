import MountKeys.CommandLine.Help
import MountKeys.Text.Terminal

/-!
# Reading a command line

Arguments are read from the left.  A flag takes its value from the same argument or from the next;
flags may stand before the command and after it, once each, and where a flag stands on both sides
the one after the command counts.  The value of a flag is looked at only when the next flag is read
or the arguments end, so a fault further right can be found first.  Asking for help or for the
version ends the reading at once.
-/

namespace MountKeys.CommandLine

/-- What is wrong with a command line. -/
inductive UsageError
  | unexpectedArgument (text : String)
  | unknownCommand (text : String)
  | valueMissing (f : Flag)
  | repeated (f : Flag)
  | valueNotText
  | unexpectedValue (value name : String)
  deriving DecidableEq, Repr

/-- What is wrong, in words. -/
def UsageError.message : UsageError → String
  | .unexpectedArgument text => s!"unexpected argument '{text}' found"
  | .unknownCommand text => s!"unrecognized subcommand '{text}'"
  | .valueMissing f => s!"a value is required for '{f.label}' but none was supplied"
  | .repeated f => s!"the argument '{f.label}' cannot be used multiple times"
  | .valueNotText => "invalid UTF-8 was detected in one or more arguments"
  | .unexpectedValue value name =>
    s!"unexpected value '{value}' for '{name}' found; no more were expected"

/-- Why the reading ends before the arguments do. -/
inductive Stop
  | error (e : UsageError)
  | help (topic : Help.Topic)
  | version (long : Bool)
  deriving DecidableEq, Repr

/-- What was read so far. -/
structure Progress where
  given : Flags
  /-- The flag that was read last, with its value if that was read. -/
  pending : Option (Flag × Option Bytes)
  deriving DecidableEq, Repr

namespace Progress

/-- Nothing. -/
def start : Progress :=
  ⟨[], none⟩

/-- The flag that takes the next argument as its value. -/
def awaiting (p : Progress) : Option Flag :=
  match p.pending with
  | some (f, none) => some f
  | _ => none

/-- Give a flag a value. -/
def assign (p : Progress) (f : Flag) (value : Bytes) : Except Stop Progress :=
  if (p.given.bytes? f).isSome then .error (.error (.repeated f))
  else if f.takesBytes then
    if value.isEmpty then .error (.error (.valueMissing f))
    else .ok { p with given := p.given ++ [(f, value)] }
  else if (Utf8.decode? value).isNone then .error (.error .valueNotText)
  else .ok { p with given := p.given ++ [(f, value)] }

/-- Look at the value of the flag that was read last. -/
def settle (p : Progress) : Except Stop Progress :=
  match p.pending with
  | none => .ok p
  | some (f, none) => .error (.error (.valueMissing f))
  | some (f, some value) => { p with pending := none }.assign f value

/-- Read a flag, with its value if that stands in the same argument. -/
def take (p : Progress) (f : Flag) (value : Option Bytes) : Except Stop Progress :=
  match p.settle with
  | .error stop => .error stop
  | .ok p =>
    match value with
    | some value => p.assign f value
    | none => .ok { p with pending := some (f, none) }

/-- Stop after what was read last, if there is nothing wrong with that. -/
def stopWith (p : Progress) (stop : Stop) : Except Stop Progress :=
  match p.settle with
  | .error stop => .error stop
  | .ok _ => .error stop

end Progress

/-- What is being read: the arguments of the program or those of a command. -/
inductive Part
  | program
  | command (c : Command)
  deriving DecidableEq, Repr

/-- What help in a part is about. -/
def Part.topic : Part → Help.Topic
  | .program => .program
  | .command c => .command c

/-- The byte of a hyphen. -/
def hyphen : UInt8 := 0x2D

/-- The byte of an equals sign. -/
def equals : UInt8 := 0x3D

/-- An argument in a message, where it may not steer the terminal. -/
def display (arg : Bytes) : String :=
  Text.unadorned (Utf8.lossy arg)

/-- The complaint about a word that has no place. -/
def misplaced (part : Part) (arg : Bytes) : UsageError :=
  match part with
  | .program => .unknownCommand (display arg)
  | .command _ => .unexpectedArgument (display arg)

/-- What follows an equals sign. -/
def attached (arg : Bytes) : Option Bytes :=
  match arg.dropWhile (· != equals) with
  | [] => none
  | _ :: value => some value

/-- Read an argument that starts with two hyphens, which are left out here. -/
def readLong (part : Part) (p : Progress) (arg : Bytes) : Except Stop Progress :=
  let name := arg.takeWhile (· != equals)
  let value := attached arg
  match Flag.all.find? fun f => textBytes f.long == name with
  | some f => p.take f value
  | none =>
    let special : Option (String × Stop) :=
      if name = textBytes "help" then some ("--help", .help part.topic)
      else if name = textBytes "version" && part = .program then some ("--version", .version true)
      else none
    match special, value with
    | some (_, stop), none => p.stopWith stop
    | some (label, _), some value => .error (.error (.unexpectedValue (display value) label))
    | none, _ => .error (.error (.unexpectedArgument ("--" ++ display name)))

/-- Read an argument that starts with one hyphen, which is left out here. -/
def readShort (part : Part) (p : Progress) (arg : Bytes) : Except Stop Progress :=
  match Utf8.pieces arg with
  | .char c :: _ =>
    match Flag.all.find? fun f => f.short? == some c with
    | some f =>
      match arg.drop (Utf8.encodeChar c).length with
      | [] => p.take f none
      | b :: value => p.take f (some (if b = equals then value else b :: value))
    | none =>
      if c = 'h' then p.stopWith (.help part.topic)
      else if c = 'V' && part = .program then p.stopWith (.version false)
      else .error (.error (.unexpectedArgument ("-" ++ display (Utf8.encodeChar c))))
  | _ => .error (.error (.unexpectedArgument ("-" ++ display arg)))

/-- The topic that words after `help` name. -/
def helpOn : List Bytes → Stop
  | [] => .help .program
  | word :: rest =>
    let topic : Option Help.Topic :=
      if word = textBytes "help" then some .help
      else (Command.all.find? fun c => textBytes c.word == word).map .command
    match topic, rest with
    | none, _ => .error (.unknownCommand (display word))
    | some _, extra :: _ => .error (.unknownCommand (display extra))
    | some topic, [] => .help topic

/-- A word that names what the program is to do. -/
inductive Word
  | command (c : Command)
  | help

/-- What a word names, where the program may be told what to do. -/
def word? (part : Part) (arg : Bytes) : Option Word :=
  match part with
  | .command _ => none
  | .program =>
    if arg = textBytes "help" then some .help
    else (Command.all.find? fun c => textBytes c.word == arg).map .command

/-- What follows two hyphens that stand alone: nothing that could have a place. -/
def afterEscape (part : Part) (p : Progress) :
    List Bytes → Except Stop (Progress × Option (Command × List Bytes))
  | [] => .ok (p, none)
  | arg :: _ =>
    match word? part arg with
    | some _ => .error (.error (.unexpectedArgument (display arg)))
    | none => .error (.error (misplaced part arg))

/-- Read arguments up to a command; give what was read, the command and what follows it. -/
def scan (part : Part) (p : Progress) :
    List Bytes → Except Stop (Progress × Option (Command × List Bytes))
  | [] => .ok (p, none)
  | arg :: rest =>
    match if p.awaiting.isNone then word? part arg else none with
    | some .help => .error (helpOn rest)
    | some (.command c) => .ok (p, some (c, rest))
    | none =>
      match arg with
      | a :: b :: long =>
        if a = hyphen ∧ b = hyphen then
          if long.isEmpty then afterEscape part p rest
          else
            match readLong part p long with
            | .error stop => .error stop
            | .ok p => scan part p rest
        else if a = hyphen then
          match readShort part p (b :: long) with
          | .error stop => .error stop
          | .ok p => scan part p rest
        else scanValue p arg rest
      | _ => scanValue p arg rest
where
  /-- Read an argument that is no flag: the value of the flag before it. -/
  scanValue (p : Progress) (arg : Bytes) (rest : List Bytes) :
      Except Stop (Progress × Option (Command × List Bytes)) :=
    match p.awaiting with
    | some f => scan part { p with pending := some (f, some arg) } rest
    | none => .error (.error (misplaced part arg))

/-- What the program is told to do. -/
structure Invocation where
  command : Command
  flags : Flags
  deriving DecidableEq, Repr

/-- Read a command line.  Without a command the program applies. -/
def read (args : List Bytes) : Except Stop Invocation :=
  match scan .program .start args with
  | .error stop => .error stop
  | .ok (p, none) => p.settle.map fun p => ⟨.apply, p.given⟩
  | .ok (p, some (c, rest)) =>
    match scan (.command c) .start rest with
    | .error stop => .error stop
    | .ok (q, _) =>
      match q.settle with
      | .error stop => .error stop
      | .ok q => p.settle.map fun p => ⟨c, q.given ++ p.given⟩

end MountKeys.CommandLine
