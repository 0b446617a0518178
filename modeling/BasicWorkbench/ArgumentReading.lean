import BasicWorkbench.OptionGrammars

namespace BasicWorkbench

/-- What is given with an option: a text, or a separator, which is struck out and leaves the option
without a value. -/
inductive OptionValue where
  | text (s : Text)
  | struck
  deriving DecidableEq, Repr

/-- What a command line says: the switches that are set, the values of options, the argument or the
command with its own arguments, and what has no place. -/
structure ArgumentReading where
  switches : List Text := []
  values : List (Text × OptionValue) := []
  operand : Option Text := none
  commandArguments : List Text := []
  extras : List Text := []
  deriving DecidableEq, Repr

namespace ArgumentReading

def value? (r : ArgumentReading) (name : Text) : Option OptionValue := r.values.lookup name

def text? (r : ArgumentReading) (name : Text) : Option Text :=
  match r.value? name with
  | some (.text s) => some s
  | _ => none

def hasSwitch (r : ArgumentReading) (name : Text) : Bool := r.switches.contains name

def withExtra (r : ArgumentReading) (extra : Text) : ArgumentReading :=
  { r with extras := r.extras ++ [extra] }

end ArgumentReading

namespace OptionGrammar

def refuseOption (rule : OptionRule) (complaint : Text) : ReadingStop :=
  .refuse ("argument " ++ rule.title ++ ": " ++ complaint)

def applySwitch (g : OptionGrammar) (rule : OptionRule) (r : ArgumentReading) :
    Except ReadingStop ArgumentReading :=
  match rule.effect with
  | .showHelp => .error (.show g.help)
  | .showVersion => .error (.show g.version)
  | .switch | .value _ => .ok { r with switches := rule.title :: r.switches }

/-- Notes the value of an option that takes one. A separator is not held against the rule. -/
def applyValue (rule : OptionRule) (accepts : ValueRule) (value : Text) (r : ArgumentReading) :
    Except ReadingStop ArgumentReading :=
  if value = "--".toList then .ok { r with values := (rule.title, .struck) :: r.values }
  else
    match accepts.complaint? value with
    | some complaint => .error (refuseOption rule complaint)
    | none => .ok { r with values := (rule.title, .text value) :: r.values }

def refuseAttached (rule : OptionRule) (value : Text) : ReadingStop :=
  refuseOption rule ("ignored explicit argument " ++ quoted value)

/-- The short options written in one argument: each letter behind the first has to be one of them. -/
def shortChain (g : OptionGrammar) (rule : OptionRule) : Text → Except ReadingStop (List OptionRule)
  | [] => .ok [rule]
  | c :: tail =>
    match g.named? ['-', c] with
    | some next => (rule :: ·) <$> g.shortChain next tail
    | none => .error (refuseAttached rule (c :: tail))

/-- Carries out an option with a text attached to it. Nothing is carried out before all letters of the
text are read. -/
def applyAttached (g : OptionGrammar) (use : OptionUse) (value : Text) (r : ArgumentReading) :
    Except ReadingStop ArgumentReading :=
  match use.rule.effect with
  | .value accepts => applyValue use.rule accepts value r
  | _ =>
    if use.isLong || value.isEmpty then .error (refuseAttached use.rule value)
    else do (← g.shortChain use.rule value).foldlM (fun r rule => g.applySwitch rule r) r

def applyOperand (g : OptionGrammar) (s : Text) (following : List Text) (r : ArgumentReading) :
    Except ReadingStop ArgumentReading :=
  match g.operand with
  | .command name choices =>
    if choices.contains s then .ok { r with operand := some s, commandArguments := following }
    else .error (.refuse ("argument " ++ name ++ ": " ++ choiceComplaint s choices))
  | _ => .ok { r with operand := some s }

def wantsOperand (g : OptionGrammar) (r : ArgumentReading) : Bool :=
  g.operand != .nothing && r.operand.isNone

def isCommandLine (g : OptionGrammar) : Bool :=
  match g.operand with
  | .command _ _ => true
  | _ => false

def readTokens (g : OptionGrammar) (r : ArgumentReading) :
    List ArgumentToken → Except ReadingStop ArgumentReading
  | [] => .ok r
  | .option s none :: rest => g.readTokens (r.withExtra s) rest
  | .option _ (some use@⟨_, _, some value⟩) :: rest => do
    g.readTokens (← g.applyAttached use value r) rest
  | .option _ (some ⟨_, rule, none⟩) :: rest =>
    match rule.effect with
    | .value accepts =>
      match rest with
      | .operand value :: rest => do g.readTokens (← applyValue rule accepts value r) rest
      | _ => .error (refuseOption rule "expected one argument")
    | _ => do g.readTokens (← g.applySwitch rule r) rest
  | .operand s :: rest =>
    if g.wantsOperand r then
      if g.isCommandLine then g.applyOperand s (rest.map (·.text)) r
      else do
        let r ← g.applyOperand s [] r
        match rest with
        | .separator :: rest => g.readTokens r rest
        | rest => g.readTokens r rest
    else g.readTokens (r.withExtra s) rest
  | .separator :: rest =>
    if g.wantsOperand r then
      match rest with
      | .operand s :: rest =>
        if g.isCommandLine then g.applyOperand "--" (s :: rest.map (·.text)) r
        else do g.readTokens (← g.applyOperand s [] r) rest
      | rest => g.readTokens (r.withExtra "--") rest
    else g.readTokens (r.withExtra "--") rest

/-- What a command line says. An argument that has no default has to be there. -/
def read (g : OptionGrammar) (args : List Text) : Except ReadingStop ArgumentReading := do
  let r ← g.readTokens {} (← g.tokens args)
  match g.operand with
  | .argument name =>
    if r.operand.isNone then .error (.refuse ("the following arguments are required: " ++ name))
    else .ok r
  | _ => .ok r

end OptionGrammar

end BasicWorkbench
