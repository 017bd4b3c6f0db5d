import ModuleBundler.Build.Options

namespace ModuleBundler.Command

/-- What a command line says. -/
structure Arguments where
  settings : Settings := {}
  /-- Only errors are told. -/
  silent : Bool := false
deriving DecidableEq, Repr, Inhabited

/-- Why a command line asks for no build. -/
inductive Stop where
  /-- It cannot be understood. -/
  | misuse
  /-- It asks for the version. -/
  | version
  /-- It asks how the command is used. -/
  | help
deriving DecidableEq, Repr, Inhabited

/-- An option with a value. -/
inductive OptionName where
  | cwd | extensions | dir | file | entryFilenames | name
deriving DecidableEq, Repr

/-- An option without a value. -/
inductive FlagName where
  | silent | version | help
deriving DecidableEq, Repr

def longOption? (name : String) : Option OptionName :=
  match name with
  | "cwd" => some .cwd
  | "extensions" => some .extensions
  | "dir" => some .dir
  | "file" => some .file
  | "entry-filenames" => some .entryFilenames
  | "name" => some .name
  | _ => none

def shortOption? (c : Char) : Option OptionName :=
  if c = 'd' then some .dir else if c = 'o' then some .file else none

def longFlag? (name : String) : Option FlagName :=
  match name with
  | "silent" => some .silent
  | "version" => some .version
  | "help" => some .help
  | _ => none

def shortFlag? (c : Char) : Option FlagName :=
  if c = 's' then some .silent
  else if c = 'V' then some .version
  else if c = 'h' then some .help
  else none

def splitComma (s : String) : List String := (Text.split ',' s.toList).map String.ofList

namespace Arguments

/-- Takes up the value of an option. Only extensions can be given more than once, and the working
directory has a name. -/
def set (a : Arguments) (o : OptionName) (value : String) : Except Stop Arguments :=
  let s := a.settings
  let once (old : Option String) (new : Settings) : Except Stop Arguments :=
    if old.isSome then .error .misuse else .ok { a with settings := new }
  match o with
  | .cwd =>
    if value.isEmpty || s.cwd.isSome then .error .misuse
    else .ok { a with settings := { s with cwd := some ⟨value⟩ } }
  | .extensions =>
    .ok { a with settings :=
      { s with extensions := some (s.extensions.getD [] ++ splitComma value) } }
  | .dir => once s.dir { s with dir := some value }
  | .file => once s.file { s with file := some value }
  | .entryFilenames => once s.entryFilenames { s with entryFilenames := some value }
  | .name => once s.name { s with name := some value }

def raise (a : Arguments) : FlagName → Except Stop Arguments
  | .silent => if a.silent then .error .misuse else .ok { a with silent := true }
  | .version => .error .version
  | .help => .error .help

/-- Takes up the entry, of which there is one. -/
def setInput (a : Arguments) (word : String) : Except Stop Arguments :=
  if a.settings.input.isSome then .error .misuse
  else .ok { a with settings := { a.settings with input := some word } }

end Arguments

/-- Whether the word cannot be a value, because it looks like an option. -/
def looksLikeOption (word : String) : Bool :=
  match word.toList with
  | '-' :: _ :: _ => true
  | _ => false

/-- Where a value is to be found. -/
inductive ValuePlace where
  | given (o : OptionName) (value : String)
  | nextWord (o : OptionName)
  /-- There is none to be found. -/
  | nowhere
deriving DecidableEq, Repr

/-- Reads letters that stand together behind a hyphen. -/
def readLetters (a : Arguments) : List Char → Except Stop (Arguments × ValuePlace)
  | [] => .ok (a, .nowhere)
  | c :: cs =>
    match shortOption? c, shortFlag? c with
    | some o, _ =>
      match cs with
      | [] => .ok (a, .nextWord o)
      | '=' :: value => .ok (a, .given o (String.ofList value))
      | value => .ok (a, .given o (String.ofList value))
    | none, some f =>
      match a.raise f with
      | .ok a => readLetters a cs
      | .error e => .error e
    | none, none => .error .misuse

def readLong (a : Arguments) (cs : List Char) : Except Stop (Arguments × ValuePlace) :=
  let name := String.ofList (cs.takeWhile (· ≠ '='))
  let value? := match cs.dropWhile (· ≠ '=') with
    | _ :: value => some (String.ofList value)
    | [] => none
  match longOption? name, longFlag? name, value? with
  | some o, _, some value => .ok (a, .given o value)
  | some o, _, none => .ok (a, .nextWord o)
  | none, some f, none =>
    match a.raise f with
    | .ok a => .ok (a, .nowhere)
    | .error e => .error e
  | _, _, _ => .error .misuse

/-- Reads a word that no option waits for. Two hyphens alone are read elsewhere. -/
def readWord (a : Arguments) (word : String) : Except Stop (Arguments × ValuePlace) :=
  match word.toList with
  | '-' :: '-' :: cs => readLong a cs
  | '-' :: c :: cs => readLetters a (c :: cs)
  | _ =>
    match a.setInput word with
    | .ok a => .ok (a, .nowhere)
    | .error e => .error e

/-- Reads words in order. Behind two hyphens alone there are no options. -/
def readWords (a : Arguments) : List String → Except Stop Arguments
  | [] => .ok a
  | word :: words =>
    if word = "--" then words.foldlM Arguments.setInput a
    else
      match readWord a word with
      | .error e => .error e
      | .ok (a, .nowhere) => readWords a words
      | .ok (a, .given o value) =>
        match a.set o value with
        | .ok a => readWords a words
        | .error e => .error e
      | .ok (a, .nextWord o) =>
        match words with
        | [] => .error .misuse
        | value :: words =>
          if looksLikeOption value then .error .misuse
          else
            match a.set o value with
            | .ok a => readWords a words
            | .error e => .error e

/-- Reads a command line, which has to name an entry. The value of an option is the word after it,
or stands behind an equals sign; behind a single letter it can also stand at once. -/
def arguments (words : List String) : Except Stop Arguments :=
  match readWords {} words with
  | .ok a => if a.settings.input.isSome then .ok a else .error .misuse
  | .error e => .error e

end ModuleBundler.Command
