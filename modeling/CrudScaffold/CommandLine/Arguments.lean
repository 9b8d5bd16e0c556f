import CrudScaffold.CommandLine.Fault
import CrudScaffold.Text.Digits
import CrudScaffold.Text.Word

/-!
# Arguments of a command

A command takes options and at most one operand. Arguments are first told apart, each by itself:
options start with a dash, may be shortened to any start that fits no other option, and may have
their value attached; what follows a double dash is no option. Then they are used in order. An
option that takes a value uses the next argument if none is attached, the first argument that is
left over is the operand, and all others are surplus.
-/

namespace CrudScaffold

/-- What an option is for. -/
inductive OptionKind
  /-- It asks for help, and nothing else is done. -/
  | help
  /-- It is given or not. -/
  | flag
  /-- It has a value. -/
  | value
deriving DecidableEq, Repr

/-- An option. -/
structure OptionRule where
  /-- Its names, each with its dashes; the first one is the key. -/
  names : List String
  /-- What it is for. -/
  kind : OptionKind
  /-- The keys of the options that it excludes. -/
  rivals : List String := []
deriving DecidableEq, Repr

/-- The key of an option. -/
def OptionRule.key (rule : OptionRule) : String := rule.names.headD ""

/-- The operand of a command. -/
inductive OperandRule
  | none
  /-- One argument, known by a name. -/
  | one (name : String)
  /-- One argument and all that follow it, which are not looked at. -/
  | rest (name : String)
deriving DecidableEq, Repr

/-- What a command takes. -/
structure Grammar where
  /-- The name of the command in messages. -/
  program : String
  /-- The options. -/
  options : List OptionRule
  /-- The operand. -/
  operand : OperandRule
deriving DecidableEq, Repr

/-- What an argument is, by itself. -/
inductive Word
  | plain (text : String)
  /-- The double dash in front of arguments that are no options. -/
  | separator
  /-- An option, with the text that is attached to its name. -/
  | option (rule : OptionRule) (attached : Option String) (text : String)
  /-- It looks like an option, and there is none of that name. -/
  | unknown (text : String)
deriving DecidableEq, Repr

/-- The argument that a word was. -/
def Word.text : Word → String
  | .plain text => text
  | .separator => "--"
  | .option _ _ text => text
  | .unknown text => text

/-- A negative number: a dash, then digits, or digits and a point and more digits. A line feed may
follow. -/
def isNegativeNumber (text : List Char) : Bool :=
  let isDigit (c : Char) := Text.inRanges Text.digitRanges c.toNat
  let ends (rest : List Char) := rest.isEmpty || rest == ['\n']
  match text with
  | '-' :: rest =>
    let behind := rest.dropWhile isDigit
    match behind with
    | '.' :: fraction =>
      (fraction.takeWhile isDigit).length > 0 && ends (fraction.dropWhile isDigit)
    | _ => (rest.takeWhile isDigit).length > 0 && ends behind
  | _ => false

/-- A text at its first equals sign: what stands before it, and what it attaches. -/
def splitAtEquals (text : String) : String × Option String :=
  let name := text.toList.takeWhile (· != '=')
  match text.toList.drop name.length with
  | [] => (text, none)
  | _ :: value => (String.ofList name, some (String.ofList value))

/-- Whether an argument names an option by two dashes. -/
def isLongOption (text : String) : Bool := ['-', '-'].isPrefixOf text.toList

namespace Grammar

/-- All names of options with their options, in order. -/
def names (grammar : Grammar) : List (String × OptionRule) :=
  grammar.options.flatMap fun rule => rule.names.map fun name => (name, rule)

/-- The option of a name. -/
def rule? (grammar : Grammar) (name : String) : Option OptionRule := grammar.names.lookup name

/-- The option of a letter. -/
def letterRule? (grammar : Grammar) (letter : Char) : Option OptionRule :=
  grammar.rule? (String.ofList ['-', letter])

/-- The options that a shortened name may stand for: with two dashes any that it is the start of,
with one dash that of its first letter, with the rest attached. -/
def fitting (grammar : Grammar) (text : String) : List (String × OptionRule × Option String) :=
  match text.toList with
  | '-' :: '-' :: _ =>
    let (start, attached) := splitAtEquals text
    (grammar.names.filter fun entry => start.toList.isPrefixOf entry.1.toList).map
      fun entry => (entry.1, entry.2, attached)
  | '-' :: letter :: rest =>
    grammar.names.filterMap fun (name, rule) =>
      if name.toList = ['-', letter] then some (name, rule, some (String.ofList rest))
      else if text.toList.isPrefixOf name.toList then some (name, rule, none)
      else none
  | _ => []

/-- What an argument is that starts with a dash and is no name of an option. -/
def classifyShortened (grammar : Grammar) (text : String) : Except UsageFault Word :=
  match grammar.fitting text with
  | [(_, rule, attached)] => .ok (.option rule attached text)
  | [] =>
    if isNegativeNumber text.toList || text.toList.contains ' ' then .ok (.plain text)
    else .ok (.unknown text)
  | several => .error (.ambiguous text (several.map Prod.fst))

/-- What an argument is. -/
def classify (grammar : Grammar) (text : String) : Except UsageFault Word :=
  match text.toList with
  | '-' :: _ :: _ =>
    let (name, attached) := splitAtEquals text
    match grammar.rule? text, grammar.rule? name with
    | some rule, _ => .ok (.option rule none text)
    | none, some rule => .ok (.option rule attached text)
    | none, none => grammar.classifyShortened text
  | _ => .ok (.plain text)

/-- What all arguments are. -/
def words (grammar : Grammar) : List String → Except UsageFault (List Word)
  | [] => .ok []
  | text :: rest =>
    if text = "--" then .ok (.separator :: rest.map .plain)
    else do
      let word ← grammar.classify text
      let further ← words grammar rest
      return word :: further

end Grammar

/-- The options in one argument. -/
structure Cluster where
  /-- The options in front, none of which takes a value. -/
  before : List OptionRule := []
  /-- The last option. -/
  last : OptionRule
  /-- The value that is attached to it. -/
  value : Option String := none
deriving DecidableEq, Repr

/-- A cluster behind one option more. -/
def Cluster.behind (rule : OptionRule) (cluster : Cluster) : Cluster :=
  { cluster with before := rule :: cluster.before }

/-- The value that an attached text gives. A double dash alone gives none, which is the same as an
empty one. -/
def attachedValue (text : List Char) : String :=
  if text = ['-', '-'] then "" else String.ofList text

namespace Grammar

/-- The options in a text that is attached to an option of one letter. The text is its value if it
takes one; else its first letter is an option of its own, with the rest attached. -/
def cluster (grammar : Grammar) (rule : OptionRule) : (attached : List Char) →
    Except UsageFault Cluster
  | [] =>
    if rule.kind = .value then .ok { last := rule, value := some "" }
    else .error (.surplusValue rule.names "")
  | letter :: rest =>
    if rule.kind = .value then
      .ok { last := rule, value := some (attachedValue (letter :: rest)) }
    else
      match grammar.letterRule? letter with
      | none => .error (.surplusValue rule.names (String.ofList (letter :: rest)))
      | some next =>
        if rest.isEmpty then .ok { before := [rule], last := next }
        else (grammar.cluster next rest).map (.behind rule)

/-- The options in an argument that names one. -/
def optionsIn (grammar : Grammar) (rule : OptionRule) (long : Bool) :
    (attached : Option String) → Except UsageFault Cluster
  | none => .ok { last := rule }
  | some text =>
    if long && rule.kind != .value then .error (.surplusValue rule.names text)
    else grammar.cluster rule text.toList

end Grammar

/-- What was given to a command. -/
structure Given where
  /-- The options, in order, each with its value if it takes one. -/
  options : List (OptionRule × Option String) := []
  /-- The operand. -/
  operand : Option String := none
  /-- What follows the operand, where that is not looked at. -/
  rest : List String := []
  /-- The arguments that nobody asked for. -/
  surplus : List String := []
deriving DecidableEq, Repr

/-- Why arguments lead to no command. -/
inductive Halt
  /-- Help was asked for. -/
  | help
  /-- The arguments of a program are refused. -/
  | fault (program : String) (fault : UsageFault)
deriving DecidableEq, Repr

namespace Given

/-- Whether an option was given. -/
def has (given : Given) (key : String) : Bool := given.options.any fun entry => entry.1.key == key

/-- The value that an option was given last. -/
def value? (given : Given) (key : String) : Option String :=
  (given.options.reverse.find? fun entry => entry.1.key == key).bind Prod.snd

/-- What was given, and one option more. -/
def addOption (program : String) (given : Given) (rule : OptionRule) (value : Option String) :
    Except Halt Given :=
  if rule.kind = .help then .error .help
  else
    match given.options.find? fun entry => rule.rivals.contains entry.1.key with
    | some (rival, _) => .error (.fault program (.excluded rule.names rival.names))
    | none => .ok { given with options := given.options ++ [(rule, value)] }

/-- What was given, and options without values more. -/
def addFlags (program : String) (given : Given) (rules : List OptionRule) : Except Halt Given :=
  rules.foldlM (fun given rule => given.addOption program rule none) given

/-- What was given, and an argument that no one asked for. -/
def addSurplus (given : Given) (text : String) : Given :=
  { given with surplus := given.surplus ++ [text] }

end Given

namespace Grammar

/-- What was given, provided that the operand is not missing. -/
def close (grammar : Grammar) (given : Given) : Except Halt Given :=
  match grammar.operand, given.operand with
  | .one name, none | .rest name, none => .error (.fault grammar.program (.missing name))
  | _, _ => .ok given

/-- Whether an argument would be the operand. -/
def wantsOperand (grammar : Grammar) (given : Given) : Bool :=
  grammar.operand != .none && given.operand.isNone

/-- Whether the arguments behind the operand are looked at. -/
def looksFurther (grammar : Grammar) : Bool :=
  match grammar.operand with
  | .rest _ => false
  | _ => true

/-- What was given, with an operand behind which nothing is looked at. -/
def closeWithRest (given : Given) (operand : String) (rest : List Word) : Given :=
  { given with operand := some operand, rest := rest.map Word.text }

/-- Use words in order, behind what was given so far. A separator next to the operand is dropped. -/
def use (grammar : Grammar) (given : Given) : List Word → Except Halt Given
  | [] => grammar.close given
  | .plain text :: .separator :: words =>
    if !grammar.wantsOperand given then
      grammar.use (given.addSurplus text) (.separator :: words)
    else if grammar.looksFurther then grammar.use { given with operand := some text } words
    else .ok (closeWithRest given text (.separator :: words))
  | .plain text :: words =>
    if !grammar.wantsOperand given then grammar.use (given.addSurplus text) words
    else if grammar.looksFurther then grammar.use { given with operand := some text } words
    else .ok (closeWithRest given text words)
  | [.separator] => grammar.close (given.addSurplus "--")
  | .separator :: word :: words =>
    if !grammar.wantsOperand given then grammar.use (given.addSurplus "--") (word :: words)
    else if grammar.looksFurther then grammar.use { given with operand := some word.text } words
    else .ok (closeWithRest given "--" (word :: words))
  | .unknown text :: words => grammar.use (given.addSurplus text) words
  | .option rule attached text :: words =>
    match grammar.optionsIn rule (isLongOption text) attached with
    | .error fault => .error (.fault grammar.program fault)
    | .ok ⟨before, last, value⟩ =>
      if last.kind = .value && value.isNone then
        match words with
        | .plain value :: words => do
          let given ← given.addFlags grammar.program before
          let given ← given.addOption grammar.program last (some value)
          grammar.use given words
        | _ => .error (.fault grammar.program (.noValue last.names))
      else do
        let given ← given.addFlags grammar.program before
        let given ← given.addOption grammar.program last value
        grammar.use given words

/-- What the arguments give to a command. -/
def read (grammar : Grammar) (arguments : List String) : Except Halt Given :=
  match grammar.words arguments with
  | .error fault => .error (.fault grammar.program fault)
  | .ok words => grammar.use {} words

end Grammar

end CrudScaffold
