import Dialogue.Shell.State

/-!
# Options

The options of a shell are letters, most of which have a name as well. They are set behind a hyphen
and cleared behind a plus, when the shell is called and while it runs. Commands of the shell have
options of their own, which are read by one rule (`cutOptions`).
-/

set_option autoImplicit false
set_option relaxedAutoImplicit false

namespace Dialogue.Shell

/-! ### Options of the shell -/

/-- The names of the options with their letters, in the order in which they are listed. -/
def optionNames : List (String × Char) :=
  [("errexit", 'e'), ("noglob", 'f'), ("ignoreeof", 'I'), ("interactive", 'i'), ("monitor", 'm'),
    ("noexec", 'n'), ("stdin", 's'), ("xtrace", 'x'), ("verbose", 'v'), ("vi", 'V'),
    ("emacs", 'E'), ("noclobber", 'C'), ("allexport", 'a'), ("notify", 'b'), ("nounset", 'u'),
    ("privileged", 'p'), ("nolog", '1'), ("debug", '2')]

/-- Options with one of them set or cleared. -/
def switchOption (on : Bool) (letter : Char) (options : List Char) : List Char :=
  let others := options.filter (· != letter)
  if on then letter :: others else others

/-- What options are asked for. -/
structure Settings where
  options : List Char
  /-- Whether commands are given as a text. -/
  command : Bool
  /-- Whether the options are to be listed, and in which of two ways. -/
  listing : Option Bool
  /-- Whether the words behind the options are arguments even if there are none. -/
  replaces : Bool
  rest : List Text
  deriving Repr, DecidableEq, Inhabited

/-- Sets or clears options by their letters; some of them take the next word. -/
def Settings.letters (calling on : Bool) (settings : Settings) : Text → Except Text Settings
  | [] => .ok settings
  | 'o' :: rest =>
    match settings.rest with
    | [] => Settings.letters calling on { settings with listing := some on } rest
    | name :: words =>
      match optionNames.lookup (String.ofList name) with
      | none => .error ("Illegal option -o ".toList ++ name)
      | some letter =>
        Settings.letters calling on
          { settings with options := switchOption on letter settings.options, rest := words } rest
  | c :: rest =>
    if calling && c == 'c' then Settings.letters calling on { settings with command := true } rest
    else if calling && c == 'l' then Settings.letters calling on settings rest
    else if c != '1' && c != '2' && optionNames.any (·.2 == c) then
      Settings.letters calling on
        { settings with options := switchOption on c settings.options } rest
    else .error ("Illegal option -".toList ++ [c])

/-- Reads options, up to a word that is none. The fuel is the number of words. -/
def Settings.readUpTo (calling : Bool) (settings : Settings) : Nat → Except Text Settings
  | 0 => .ok settings
  | fuel + 1 =>
    match settings.rest with
    | ['-'] :: words =>
      let quiet := settings.options.filter fun c ↦ c != 'x' && c != 'v'
      .ok { settings with options := if calling then settings.options else quiet, rest := words }
    | ['-', '-'] :: words => .ok { settings with replaces := true, rest := words }
    | ('-' :: letters) :: words => do
      Settings.readUpTo calling (← { settings with rest := words }.letters calling true letters)
        fuel
    | ('+' :: letters) :: words => do
      Settings.readUpTo calling (← { settings with rest := words }.letters calling false letters)
        fuel
    | _ => .ok settings

/-- Reads options, as the shell is called or from within it. -/
def Settings.read (calling : Bool) (options : List Char) (words : List Text) :
    Except Text Settings :=
  Settings.readUpTo calling ⟨options, false, none, false, words⟩ words.length

/-- The options as they are listed. -/
def listedOptions (options : List Char) : Text :=
  "Current option settings\n".toList ++ optionNames.flatMap fun (name, letter) ↦
    name.toList ++ List.replicate (16 - name.length) ' '
      ++ (if options.contains letter then "on\n" else "off\n").toList

/-- The commands that would set the options. -/
def optionCommands (options : List Char) : Text :=
  optionNames.flatMap fun (name, letter) ↦
    "set ".toList ++ [if options.contains letter then '-' else '+'] ++ "o ".toList ++ name.toList
      ++ ['\n']

/-! ### Options of commands -/

/-- The options at the start of some words, each with the text that belongs to it, and the other
words. Letters that are followed by a colon take a text. The fuel is the number of words and of
their characters. -/
def cutOptionsUpTo (allowed : Text) (words : List Text) :
    Nat → Except Text (List (Char × Text) × List Text)
  | 0 => .ok ([], words)
  | fuel + 1 =>
    match words with
    | ['-', '-'] :: rest => .ok ([], rest)
    | ('-' :: c :: more) :: rest =>
      let found := allowed.dropWhile (· != c)
      if c == ':' || found.isEmpty then .error ("Illegal option -".toList ++ [c])
      else if found[1]? == some ':' then
        match more, rest with
        | [], [] => .error ("No arg for -".toList ++ [c] ++ " option".toList)
        | [], text :: rest => do
          let (others, last) ← cutOptionsUpTo allowed rest fuel
          return ((c, text) :: others, last)
        | text, rest => do
          let (others, last) ← cutOptionsUpTo allowed rest fuel
          return ((c, text) :: others, last)
      else do
        let next := if more.isEmpty then rest else ('-' :: more) :: rest
        let (others, last) ← cutOptionsUpTo allowed next fuel
        return ((c, []) :: others, last)
    | _ => .ok ([], words)

/-- The options at the start of some words, and the other words. -/
def cutOptions (allowed : String) (words : List Text) :
    Except Text (List (Char × Text) × List Text) :=
  cutOptionsUpTo allowed.toList words (words.foldl (fun n word ↦ n + word.length + 1) 1)

/-! ### Quoting -/

/-- A text in quotes, so that it is read back as it is. The quotes that it holds are put into quotes
of the other kind. The fuel is the length of the text and one more. -/
def quotedUpTo (text : Text) : Nat → Text
  | 0 => []
  | fuel + 1 =>
    let plain := text.takeWhile (· != '\'')
    let rest := text.drop plain.length
    let quotes := rest.takeWhile (· == '\'')
    let start := '\'' :: plain ++ ['\'']
    if quotes.isEmpty then start
    else
      let behind := rest.drop quotes.length
      start ++ '"' :: quotes ++ '"' :: if behind.isEmpty then [] else quotedUpTo behind fuel

/-- A text in quotes. -/
def singleQuotes (text : Text) : Text :=
  quotedUpTo text (text.length + 1)

end Dialogue.Shell
