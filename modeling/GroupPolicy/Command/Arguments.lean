namespace GroupPolicy.Command

/-- What a run is to do. -/
structure Request where
  /-- The file that holds the snapshot. -/
  snapshot : String
  /-- The file that holds the settings. -/
  settings : Option String := none
  /-- The address of the endpoint to render, if not all are. -/
  endpoint : Option String := none
  /-- Which messages are shown. -/
  logLevel : String := "info"
  /-- Whether the result is written with one item a line. -/
  pretty : Bool := false
  deriving DecidableEq, Repr, Inhabited

/-- What a command line asks for. -/
inductive Invocation where
  | render (request : Request)
  | version
  | help
  /-- Nothing that makes sense. -/
  | misuse
  deriving DecidableEq, Repr, Inhabited

/-- The options that take a value. -/
inductive ValueOption where
  | snapshot
  | settings
  | endpoint
  | logLevel
  deriving DecidableEq, Repr

namespace ValueOption

/-- The option of a letter. -/
def ofLetter? : Char → Option ValueOption
  | 's' => some .snapshot
  | 'c' => some .settings
  | 'e' => some .endpoint
  | 'l' => some .logLevel
  | _ => none

/-- The option of a word. -/
def ofWord? : String → Option ValueOption
  | "snapshot" => some .snapshot
  | "config" => some .settings
  | "endpoint" => some .endpoint
  | "log-level" => some .logLevel
  | _ => none

end ValueOption

/-- The options that have been given so far. -/
structure Given where
  snapshot : Option String := none
  settings : Option String := none
  endpoint : Option String := none
  logLevel : Option String := none
  pretty : Bool := false

namespace Given

/-- Takes up the value of an option. No option may be given twice, and paths must not be empty. -/
def set? (g : Given) (o : ValueOption) (value : String) : Option Given :=
  match o with
  | .snapshot =>
    if g.snapshot.isSome || value.isEmpty then none else some { g with snapshot := some value }
  | .settings =>
    if g.settings.isSome || value.isEmpty then none else some { g with settings := some value }
  | .endpoint => if g.endpoint.isSome then none else some { g with endpoint := some value }
  | .logLevel => if g.logLevel.isSome then none else some { g with logLevel := some value }

/-- What the options amount to; the snapshot must be given. -/
def invocation (g : Given) : Invocation :=
  match g.snapshot with
  | none => .misuse
  | some snapshot =>
    .render { snapshot, settings := g.settings, endpoint := g.endpoint,
              logLevel := g.logLevel.getD "info", pretty := g.pretty }

end Given

/-- A word of the command line. -/
inductive Word where
  /-- The end of the options. -/
  | escape
  /-- A long option, with a value if an equals sign follows its name. -/
  | long (name : String) (value : Option String)
  /-- A short option, with a value if anything follows its letter. -/
  | short (letter : Char) (value : Option String)
  /-- Anything that is no option. -/
  | operand (s : String)
  deriving DecidableEq, Repr

namespace Word

/-- The name of a long option and the value after an equals sign. -/
def ofLong (s : List Char) : Word :=
  let name := String.ofList (s.takeWhile (· != '='))
  match s.dropWhile (· != '=') with
  | _ :: value => .long name (some (String.ofList value))
  | [] => .long name none

/-- The word that a text is; a dash alone is no option. -/
def ofString (s : String) : Word :=
  match s.toList with
  | ['-', '-'] => .escape
  | '-' :: '-' :: r => ofLong r
  | '-' :: letter :: '=' :: r => .short letter (some (String.ofList r))
  | '-' :: letter :: c :: r => .short letter (some (String.ofList (c :: r)))
  | ['-', letter] => .short letter none
  | _ => .operand s

end Word

/-- Reads the words after those that `given` stands for. Words are read one after the other, so a
request for the version counts only if nothing before it is wrong; and a value is the word after
its option, unless that is an option itself. -/
def parseWords (given : Given) : List String → Invocation
  | [] => given.invocation
  | s :: rest =>
    let option? : Option (ValueOption × Option String) :=
      match Word.ofString s with
      | .long name value => (ValueOption.ofWord? name).map fun o => (o, value)
      | .short letter value => (ValueOption.ofLetter? letter).map fun o => (o, value)
      | _ => none
    match option? with
    | some (o, some value) =>
      match given.set? o value with
      | some given => parseWords given rest
      | none => .misuse
    | some (o, none) =>
      match rest with
      | [] => .misuse
      | next :: rest =>
        match Word.ofString next with
        | .operand value =>
          match given.set? o value with
          | some given => parseWords given rest
          | none => .misuse
        | _ => .misuse
    | none =>
      match Word.ofString s with
      | .escape => if rest.isEmpty then given.invocation else .misuse
      | .long "pretty" none =>
        if given.pretty then .misuse else parseWords { given with pretty := true } rest
      | .long "version" none => .version
      | .short 'V' _ => .version
      | .long "help" none => .help
      | .short 'h' _ => .help
      | _ => .misuse

/-- What a command line asks for. -/
def parse (args : List String) : Invocation := parseWords {} args

end GroupPolicy.Command
