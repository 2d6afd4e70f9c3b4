import DeviceHub.Dict

/-
  The arguments of the program.

  A level of the command line takes settings, values and
  the names of the levels below it.  A setting is written
  by its letter or its name; its value follows at once,
  after an equals sign, or as the next argument.  Two
  dashes end the settings: what comes after them are values.

  A value that is an argument of its own is looked at only
  when the level goes on, and when a level below comes
  next, only after that one has been read.  So whoever asks
  for an explanation below gets it first.

  Key definitions include:
    * `Argument.ofText`
    * `Level`
    * `Given`
    * `Given.settle`
    * `Level.scan`
    * `Arguments.parse`
-/

namespace DeviceHub

namespace CommandLine

------------------------------------------------------------
-- Commands
------------------------------------------------------------

/- What can be done with assets. -/
inductive AssetCommand where
  | search (moduleId criteria : String)
  | refresh
  deriving DecidableEq, Repr

/- What the program can do. -/
inductive Command where
  | check
  | decode (kind file : String)
  | assets (command : AssetCommand)
  deriving DecidableEq, Repr

/- What the program is asked for. -/
structure Arguments where
  config : Option String
  command : Command
  deriving DecidableEq, Repr

/- Why there is nothing to do. -/
inductive Usage where
  | explained
  | mistaken
  deriving DecidableEq, Repr

/- Who asks for an explanation gets what was asked for. -/
def Usage.exitCode : Usage → Nat
  | explained => 0
  | mistaken => 2

------------------------------------------------------------
-- Single Arguments
------------------------------------------------------------

/- The form of an argument. -/
inductive Argument where
  | dashes
  | named (name : String) (value : Option String)
  | letters (letters : List Char)
  | plain (value : String)
  deriving DecidableEq, Repr

/- A name, and the value after an equals sign. -/
def Argument.ofName
    (cs : List Char) : Argument :=
  let (name, rest) := cs.span (· != '=')
  match rest with
  | [] => named (String.ofList name) none
  | _ :: value =>
      named (String.ofList name) (some (String.ofList value))

/- The form of a text. -/
def Argument.ofText
    (s : String) : Argument :=
  match s.toList with
  | ['-', '-'] => dashes
  | '-' :: '-' :: rest => ofName rest
  | '-' :: c :: rest => letters (c :: rest)
  | _ => plain s

------------------------------------------------------------
-- Levels
------------------------------------------------------------

/- What a value stands for; a path is never empty. -/
inductive ValueKind where
  | path
  | text
  deriving DecidableEq, Repr

/- Whether a text can be a value. -/
def ValueKind.accepts
    (k : ValueKind)
    (s : String) : Bool :=
  match k with
  | path => s != ""
  | text => true

/- Something that can be set. -/
structure Setting where
  letter : Char
  name : String
  kind : ValueKind
  deriving DecidableEq, Repr

/- What a level of the command line takes. -/
structure Level where
  hasVersion : Bool
  settings : List Setting
  values : List ValueKind
  below : List String
  topics : List (List String)
  deriving DecidableEq, Repr

/- What is left to do for the setting that came last. -/
inductive Unsettled where
  | nothing
  | awaits (s : Setting)
  | holds (s : Setting) (value : String)
  deriving DecidableEq, Repr

/- What was given at a level. -/
structure Given where
  settings : Dict String
  values : List String
  unsettled : Unsettled
  onlyValues : Bool

namespace Given

/- What is given before any argument. -/
def nothing : Given :=
  ⟨.empty, [], .nothing, false⟩

/- Take the value of a setting, which comes only once. -/
def set
    (g : Given)
    (s : Setting)
    (value : String) : Except Usage Given :=
  if g.settings.contains s.name || !s.kind.accepts value then
    .error .mistaken
  else
    .ok { g with
      settings := g.settings.insert s.name value
      unsettled := .nothing }

/- Finish with the setting that came last. -/
def settle
    (g : Given) : Except Usage Given :=
  match g.unsettled with
  | .nothing => .ok g
  | .awaits _ => .error .mistaken
  | .holds s value => g.set s value

/- Take a setting, whose value may follow later. -/
def begin
    (g : Given)
    (s : Setting)
    (value : Option String) : Except Usage Given := do
  let g ← g.settle
  match value with
  | some value => g.set s value
  | none => .ok { g with unsettled := .awaits s }

/- Stop here with an explanation. -/
def explain
    (g : Given) : Except Usage Given := do
  let _ ← g.settle
  .error .explained

/- Whether the next argument is the value of a setting. -/
def awaitsValue
    (g : Given) : Bool :=
  match g.unsettled with
  | .awaits _ => true
  | _ => false

end Given

namespace Level

/- Take one of the values of a level. -/
def addValue
    (l : Level)
    (g : Given)
    (value : String) : Except Usage Given := do
  let g ← g.settle
  match l.values[g.values.length]? with
  | some kind =>
      if kind.accepts value then
        .ok { g with values := g.values ++ [value] }
      else
        .error .mistaken
  | none => .error .mistaken

/- Whether a name asks for an explanation. -/
def explains
    (l : Level)
    (name : String) : Bool :=
  name == "help" || (l.hasVersion && name == "version")

/- Whether a letter asks for an explanation. -/
def explainsLetter
    (l : Level)
    (c : Char) : Bool :=
  c == 'h' || (l.hasVersion && c == 'V')

/- Take a name, with its value if that follows at once. -/
def addNamed
    (l : Level)
    (g : Given)
    (name : String)
    (value : Option String) : Except Usage Given :=
  if l.explains name && value.isNone then
    g.explain
  else
    match l.settings.find? (·.name == name) with
    | some s => g.begin s value
    | none => .error .mistaken

/- What follows a letter at once. -/
def attached : List Char → Option String
  | [] => none
  | '=' :: rest => some (String.ofList rest)
  | rest => some (String.ofList rest)

/- Take a letter, and what follows it at once. -/
def addLetters
    (l : Level)
    (g : Given) : List Char → Except Usage Given
  | [] => .ok g
  | c :: rest =>
      if l.explainsLetter c then
        g.explain
      else
        match l.settings.find? (·.letter == c) with
        | some s => g.begin s (attached rest)
        | none => .error .mistaken

/- Take an argument that names no level below. -/
def add
    (l : Level)
    (g : Given)
    (argument : String) : Except Usage Given :=
  if g.onlyValues then
    l.addValue g argument
  else
    match Argument.ofText argument, g.unsettled with
    | .plain value, .awaits s =>
        .ok { g with unsettled := .holds s value }
    | .plain value, _ => l.addValue g value
    | .dashes, _ => .ok { g with onlyValues := true }
    | .named name value, _ => l.addNamed g name value
    | .letters cs, _ => l.addLetters g cs

/- Whether an argument can name a level below. -/
def isName
    (l : Level)
    (g : Given)
    (argument : String) : Bool :=
  !g.onlyValues && !g.awaitsValue &&
    l.below.contains argument

/- Whether an argument asks for the topics of a level. -/
def asksTopic
    (l : Level)
    (g : Given)
    (argument : String) : Bool :=
  !g.onlyValues && !g.awaitsValue &&
    !l.topics.isEmpty && argument == "help"

/- The topic that the last arguments ask for. -/
def explainTopic
    (l : Level)
    (topic : List String) : Usage :=
  if l.topics.contains topic then .explained else .mistaken

/-
  Take the arguments of a level.  The name of a level below
  and the arguments after it remain.
-/
def scan
    (l : Level)
    (g : Given) :
    List String → Except Usage (Given × List String)
  | [] => .ok (g, [])
  | a :: rest =>
      if l.isName g a then
        .ok (g, a :: rest)
      else if l.asksTopic g a then
        .error (l.explainTopic rest)
      else
        match l.add g a with
        | .ok g => l.scan g rest
        | .error u => .error u

/- Take all arguments of a level with nothing below it. -/
def scanAll
    (l : Level)
    (args : List String) : Except Usage Given := do
  let (g, _) ← l.scan .nothing args
  g.settle

end Level

------------------------------------------------------------
-- The Levels of the Program
------------------------------------------------------------

/- The configuration file, which every level takes. -/
def configSetting : Setting :=
  ⟨'c', "config", .path⟩

/- The kind of a payload. -/
def kindSetting : Setting :=
  ⟨'k', "kind", .text⟩

/- The kind of a payload unless it is given. -/
def defaultKind : String :=
  "json-batch"

/- A level with nothing below it. -/
def Level.leaf
    (settings : List Setting)
    (values : List ValueKind) : Level :=
  ⟨false, configSetting :: settings, values, [], []⟩

/- The level of all commands. -/
def topLevel : Level :=
  ⟨true, [configSetting], [],
    ["check", "decode", "assets"],
    [[], ["check"], ["decode"], ["assets"], ["help"],
      ["assets", "search"], ["assets", "refresh"],
      ["assets", "help"]]⟩

/- The level of the asset commands. -/
def assetsLevel : Level :=
  ⟨false, [configSetting], [],
    ["search", "refresh"],
    [[], ["search"], ["refresh"], ["help"]]⟩

------------------------------------------------------------
-- All Arguments
------------------------------------------------------------

namespace Given

/- The configuration file, if it was given. -/
def config
    (g : Given) : Option String :=
  g.settings.get? configSetting.name

/- The command to decode a file. -/
def decode
    (g : Given) : Except Usage Command :=
  match g.values with
  | [file] =>
      .ok (.decode ((g.settings.get? kindSetting.name).getD
        defaultKind) file)
  | _ => .error .mistaken

/- The command to search a module. -/
def search
    (g : Given) : Except Usage AssetCommand :=
  match g.values with
  | moduleId :: criteria =>
      .ok (.search moduleId (criteria.head?.getD ""))
  | [] => .error .mistaken

end Given

namespace Arguments

/- Read the arguments of an asset command. -/
def parseAssets
    (args : List String) :
    Except Usage (Option String × AssetCommand) := do
  let (outer, rest) ← assetsLevel.scan .nothing args
  let (config, command) ←
    match rest with
    | "search" :: rest => do
        let g ← (Level.leaf [] [.text, .text]).scanAll rest
        let command ← g.search
        pure (g.config, command)
    | "refresh" :: rest => do
        let g ← (Level.leaf [] []).scanAll rest
        pure (g.config, AssetCommand.refresh)
    | _ => .error .mistaken
  let outer ← outer.settle
  return (config <|> outer.config, command)

/- Read the arguments of a command. -/
def parseCommand :
    List String → Except Usage (Option String × Command)
  | "check" :: rest => do
      let g ← (Level.leaf [] []).scanAll rest
      return (g.config, .check)
  | "decode" :: rest => do
      let g ← (Level.leaf [kindSetting] [.path]).scanAll rest
      let command ← g.decode
      return (g.config, command)
  | "assets" :: rest => do
      let (config, command) ← parseAssets rest
      return (config, .assets command)
  | _ => .error .mistaken

/- Read all arguments; the innermost configuration counts. -/
def parse
    (args : List String) : Except Usage Arguments := do
  let (outer, rest) ← topLevel.scan .nothing args
  let (config, command) ← parseCommand rest
  let outer ← outer.settle
  return ⟨config <|> outer.config, command⟩

end Arguments

end CommandLine

end DeviceHub
