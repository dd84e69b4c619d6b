/-
The words of the command line. Words that begin with a dash are options unless they look like a
negative number or hold a space; long options may be cut short, short ones may be bundled, and a
lone double dash ends the options. The first word that is no option is the program.
-/
import StructuralTyping.Text.Digit
import StructuralTyping.Text.Quoted

namespace StructuralTyping.Command

/-- What the words ask for. -/
structure Arguments where
  program : String
  source : Option String
  checks : Nat
  deriving Repr, DecidableEq

/-- Why the words are no command. -/
inductive Misuse where
  | ambiguous (word : String) (spellings : List String)
  | argumentExpected (option : String)
  | argumentIgnored (option argument : String)
  | programRequired
  | unrecognized (words : List String)
  deriving Repr, DecidableEq

/-- A misuse in words. -/
def Misuse.message : Misuse → String
  | .ambiguous word spellings =>
    "ambiguous option: " ++ word ++ " could match " ++ ", ".intercalate spellings
  | .argumentExpected option => "argument " ++ option ++ ": expected one argument"
  | .argumentIgnored option argument =>
    "argument " ++ option ++ ": ignored explicit argument " ++ Text.quoted argument
  | .programRequired => "the following arguments are required: program"
  | .unrecognized words => "unrecognized arguments: " ++ " ".intercalate words

/-- Why reading the words ends early: help is asked for, or they are no command. -/
inductive Stop where
  | help
  | misuse (misuse : Misuse)
  deriving Repr, DecidableEq

/-! ## Options -/

/-- The options. -/
inductive Flag where
  | help | source | check
  deriving Repr, DecidableEq

/-- The spellings of the options, short before long. -/
def Flag.spellings : List (String × Flag) :=
  [("-h", .help), ("--help", .help), ("-s", .source), ("--source", .source), ("-c", .check),
    ("--check", .check)]

/-- An option as messages name it. -/
def Flag.title : Flag → String
  | .help => "-h/--help"
  | .source => "-s/--source"
  | .check => "-c/--check"

/-- Whether an option takes an argument. -/
def Flag.takesArgument : Flag → Bool
  | .source => true
  | _ => false

/-- The option that a letter is the short spelling of. -/
def Flag.ofLetter? (letter : Char) : Option Flag :=
  Flag.spellings.lookup (String.ofList ['-', letter])

/-- A word by what it can be. Of an option, `short` tells whether it was spelled with one dash, and
`attached` is the text written in the same word. -/
inductive Word where
  | plain (text : String)
  | divider
  | unknown (text : String)
  | option (flag : Flag) (short : Bool) (attached : Option (List Char))
  deriving Repr, DecidableEq

/-- Whether a text is a negative number, with a line feed after it or not. -/
def isNegativeNumber (text : List Char) : Bool :=
  match text with
  | '-' :: body =>
    let body := if body.getLast? == some '\n' then body.dropLast else body
    let whole := body.takeWhile Text.isDecimalDigit
    match body.drop whole.length with
    | [] => !whole.isEmpty
    | '.' :: part => !part.isEmpty && part.all Text.isDecimalDigit
    | _ => false
  | _ => false

/-- A word before its first equals sign, and what is after it if there is one. -/
def splitEquals (text : List Char) : List Char × Option (List Char) :=
  let head := text.takeWhile (· != '=')
  match text.drop head.length with
  | [] => (head, none)
  | _ :: rest => (head, some rest)

/-- The options that a word could stand for, with their spellings. A long one may be cut short; a
short one may have more text in the same word. -/
def candidates (text : List Char) : List (String × Word) :=
  if text[1]? == some '-' then
    let (head, attached) := splitEquals text
    Flag.spellings.filterMap fun (spelling, flag) =>
      if head.isPrefixOf spelling.toList then some (spelling, .option flag false attached) else none
  else
    Flag.spellings.filterMap fun (spelling, flag) =>
      if spelling.toList == text.take 2 then
        some (spelling, .option flag true (some (text.drop 2)))
      else none

/-- Whether a spelling has one dash. -/
def isShort (spelling : List Char) : Bool := spelling[1]? != some '-'

/-- What a word can be, before a divider. -/
def classify (word : String) : Except Stop Word :=
  let text := word.toList
  if text.head? != some '-' || text.length ≤ 1 then .ok (.plain word)
  else
    match Flag.spellings.lookup word with
    | some flag => .ok (.option flag (isShort text) none)
    | none =>
      let (head, attached) := splitEquals text
      match attached, Flag.spellings.lookup (String.ofList head) with
      | some attached, some flag => .ok (.option flag (isShort head) (some attached))
      | _, _ =>
        match candidates text with
        | [(_, option)] => .ok option
        | [] =>
          if isNegativeNumber text || text.contains ' ' then .ok (.plain word)
          else .ok (.unknown word)
        | several => .error (.misuse (.ambiguous word (several.map Prod.fst)))

/-- What each word can be. The first double dash divides; all after it are plain. -/
def classifyAll : List String → Except Stop (List Word)
  | [] => .ok []
  | word :: rest =>
    if word == "--" then .ok (.divider :: rest.map .plain)
    else do
      let first ← classify word
      let others ← classifyAll rest
      return first :: others

/-! ## Bundles -/

/-- What one word of options asks for: options without argument, then perhaps one that takes an
argument, which is in the same word or else the next one. -/
structure Bundle where
  flags : List Flag
  argument : Option (Flag × Option String)
  deriving Repr, DecidableEq

namespace Bundle

/-- An option with nothing attached. -/
def ofFlag (flag : Flag) : Bundle :=
  if flag.takesArgument then ⟨[], some (flag, none)⟩ else ⟨[flag], none⟩

/-- A bundle with an option without argument before it. -/
def push (flag : Flag) (bundle : Bundle) : Bundle :=
  { bundle with flags := flag :: bundle.flags }

/-- An option with a text attached. The text is the argument of an option that takes one; after a
short option without argument it begins with the letter of another short option, to which the
rest is attached. -/
def ofAttached (flag : Flag) (short : Bool) (attached : List Char) : Except Stop Bundle :=
  if flag.takesArgument then .ok ⟨[], some (flag, some (String.ofList attached))⟩
  else
    match attached with
    | [] => .error (.misuse (.argumentIgnored flag.title ""))
    | letter :: rest =>
      match if short then Flag.ofLetter? letter else none with
      | some next =>
        if rest.isEmpty then .ok ((ofFlag next).push flag)
        else (ofAttached next true rest).map (push flag)
      | none => .error (.misuse (.argumentIgnored flag.title (String.ofList (letter :: rest))))

/-- What an option and the text attached to it, if any, ask for. -/
def ofOption (flag : Flag) (short : Bool) : Option (List Char) → Except Stop Bundle
  | none => .ok (ofFlag flag)
  | some attached => ofAttached flag short attached

end Bundle

/-! ## Reading the words -/

/-- What the words read so far ask for, and those of no use. -/
structure Progress where
  program : Option String
  source : Option String
  checks : Nat
  extras : List String
  deriving Repr

/-- Nothing is asked for yet. -/
def Progress.start : Progress := ⟨none, none, 0, []⟩

/-- Takes options without argument. Help stops at once. -/
def Progress.takeFlags (progress : Progress) : List Flag → Except Stop Progress
  | [] => .ok progress
  | .help :: _ => .error .help
  | _ :: rest => takeFlags { progress with checks := progress.checks + 1 } rest

/-- Takes the argument of the source option, the last of which counts. A double dash is no source,
and takes back one that was given before. -/
def Progress.takeSource (progress : Progress) (text : String) : Progress :=
  { progress with source := if text == "--" then none else some text }

/-- Takes a word that is of no use. -/
def Progress.addExtra (progress : Progress) (word : String) : Progress :=
  { progress with extras := progress.extras ++ [word] }

/-- Takes one word, and tells whether the next one goes with it: the program takes a divider
beside it along, and an option its argument. -/
def Progress.take (progress : Progress) (word : Word) (next : Option Word) :
    Except Stop (Progress × Bool) :=
  match word with
  | .plain text =>
    match progress.program with
    | some _ => .ok (progress.addExtra text, false)
    | none => .ok ({ progress with program := some text }, next == some .divider)
  | .divider =>
    match progress.program, next with
    | none, some (.plain text) => .ok ({ progress with program := some text }, true)
    | _, _ => .ok (progress.addExtra "--", false)
  | .unknown text => .ok (progress.addExtra text, false)
  | .option flag short attached => do
    let bundle ← Bundle.ofOption flag short attached
    match bundle.argument, next with
    | none, _ => return (← progress.takeFlags bundle.flags, false)
    | some (_, some text), _ =>
      return ((← progress.takeFlags bundle.flags).takeSource text, false)
    | some (_, none), some (.plain text) =>
      return ((← progress.takeFlags bundle.flags).takeSource text, true)
    | some (flag, none), _ => .error (.misuse (.argumentExpected flag.title))

/-- Takes the words in order. -/
def consume (progress : Progress) : List Word → Except Stop Progress
  | [] => .ok progress
  | [word] => do
    let (progress, _) ← progress.take word none
    return progress
  | word :: next :: rest => do
    let (progress, both) ← progress.take word (some next)
    if both then consume progress rest else consume progress (next :: rest)

/-- What the words ask for. That the program is missing is noticed before useless words are. -/
def parse (words : List String) : Except Stop Arguments := do
  let progress ← consume .start (← classifyAll words)
  match progress.program with
  | none => .error (.misuse .programRequired)
  | some program =>
    if progress.extras.isEmpty then return ⟨program, progress.source, progress.checks⟩
    else .error (.misuse (.unrecognized progress.extras))

end StructuralTyping.Command
