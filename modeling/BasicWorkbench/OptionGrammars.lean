import BasicWorkbench.NumberText
import BasicWorkbench.QuotedText
import BasicWorkbench.TextCuts

namespace BasicWorkbench

inductive ValueRule where
  | any
  | integer
  | oneOf (choices : List Text)
  deriving DecidableEq, Repr

def choiceComplaint (value : Text) (choices : List Text) : Text :=
  "invalid choice: " ++ quoted value ++ " (choose from " ++ joinWith ", " (choices.map quoted) ++ ")"

def ValueRule.complaint? (rule : ValueRule) (value : Text) : Option Text :=
  match rule with
  | .any => none
  | .integer =>
    if (readInteger? value).isSome then none else some ("invalid int value: " ++ quoted value)
  | .oneOf choices => if choices.contains value then none else some (choiceComplaint value choices)

/-- What an option does: show a text and end, be noted, or take a value. -/
inductive OptionEffect where
  | showHelp
  | showVersion
  | switch
  | value (rule : ValueRule)
  deriving DecidableEq, Repr

/-- An option with all its spellings. One with a short spelling takes no value. -/
structure OptionRule where
  names : List Text
  effect : OptionEffect
  deriving DecidableEq, Repr

def OptionRule.title (o : OptionRule) : Text := joinWith ['/'] o.names

/-- What stands on a command line besides options: nothing, one argument, or a command with
arguments of its own. -/
inductive OperandRule where
  | nothing
  | argument (name : Text)
  | command (name : Text) (choices : List Text)
  deriving DecidableEq, Repr

/-- A command line: the program's name, its texts, its options and what else may stand there. -/
structure OptionGrammar where
  program : Text
  usage : Text
  help : Text
  version : Text
  options : List OptionRule
  operand : OperandRule
  deriving DecidableEq, Repr

/-- Why reading a command line ends early: a text was asked for, or something is wrong. -/
inductive ReadingStop where
  | show (text : Text)
  | refuse (complaint : Text)
  deriving DecidableEq, Repr

/-- A use of an option under one of its spellings. A text can be attached to it. -/
structure OptionUse where
  name : Text
  rule : OptionRule
  attached : Option Text
  deriving DecidableEq, Repr

def OptionUse.isLong (use : OptionUse) : Bool := "--".toList.isPrefixOf use.name

inductive ArgumentToken where
  | operand (s : Text)
  | separator
  | option (s : Text) (use : Option OptionUse)
  deriving DecidableEq, Repr

def ArgumentToken.text : ArgumentToken → Text
  | .operand s => s
  | .separator => "--"
  | .option s _ => s

namespace OptionGrammar

def named? (g : OptionGrammar) (name : Text) : Option OptionRule :=
  g.options.find? (·.names.contains name)

def cutAtEquals (s : Text) : Text × Option Text :=
  match s.dropWhile (· != '=') with
  | [] => (s, none)
  | _ :: value => (s.takeWhile (· != '='), some value)

/-- The options that an argument may abbreviate: a long one by its first letters, a short one with a
tail behind its letter. -/
def candidates (g : OptionGrammar) (arg : Text) : List OptionUse :=
  let spellings := g.options.flatMap fun rule => rule.names.map (·, rule)
  if "--".toList.isPrefixOf arg then
    let (start, value) := cutAtEquals arg
    (spellings.filter fun (name, _) => start.isPrefixOf name).map fun (name, rule) => ⟨name, rule, value⟩
  else
    spellings.filterMap fun (name, rule) =>
      if name = arg.take 2 then some ⟨name, rule, some (arg.drop 2)⟩
      else if arg.isPrefixOf name then some ⟨name, rule, none⟩
      else none

def isNegativeNumber (arg : Text) : Bool :=
  match arg with
  | '-' :: s =>
    let whole := s.takeWhile isDigit
    match s.dropWhile isDigit with
    | '.' :: part => !(part.takeWhile isDigit).isEmpty && atEnd (part.dropWhile isDigit)
    | rest => !whole.isEmpty && atEnd rest
  | _ => false

def classify (g : OptionGrammar) (arg : Text) : Except ReadingStop ArgumentToken :=
  let exact := g.named? arg
  let (start, value) := cutAtEquals arg
  if arg.head? != some '-' then .ok (.operand arg)
  else if exact.isSome then .ok (.option arg (exact.map (⟨arg, ·, none⟩)))
  else if arg.length = 1 then .ok (.operand arg)
  else if value.isSome && (g.named? start).isSome then
    .ok (.option arg ((g.named? start).map (⟨start, ·, value⟩)))
  else
    match g.candidates arg with
    | [] => .ok (if isNegativeNumber arg || arg.contains ' ' then .operand arg else .option arg none)
    | [use] => .ok (.option arg (some use))
    | several =>
      .error (.refuse ("ambiguous option: " ++ arg ++ " could match " ++
        joinWith ", " (several.map (·.name))))

/-- The arguments by their looks. Behind the first separator nothing is an option. -/
def tokens (g : OptionGrammar) : List Text → Except ReadingStop (List ArgumentToken)
  | [] => .ok []
  | arg :: args =>
    if arg = "--".toList then .ok (.separator :: args.map .operand)
    else do
      let token ← g.classify arg
      let more ← g.tokens args
      .ok (token :: more)

end OptionGrammar

end BasicWorkbench
