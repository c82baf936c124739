import Lunette.Command.Run
import Lunette.Text.DecimalDigit

/-!
# Command line options

Arguments are read in two passes.  The first decides of every argument by itself whether it
is an option, and refuses one that abbreviates several options.  The second goes from left
to right, gives options their values, and obeys them: a request for help or for the version
ends the reading at once.  Arguments that have no use are refused at the end.
-/

namespace Lunette.Command

/-- The options. -/
inductive Flag where
  | help | string | tokens | format | verbose | version
  deriving DecidableEq

namespace Flag

/-- All spellings of options, in the order in which they are declared. -/
def spellings : List (Text × Flag) :=
  [("-h".toList, .help), ("--help".toList, .help),
   ("-s".toList, .string), ("--string".toList, .string),
   ("--tokens".toList, .tokens),
   ("-f".toList, .format), ("--format".toList, .format),
   ("-v".toList, .verbose), ("--verbose".toList, .verbose),
   ("--version".toList, .version)]

/-- The option with the given spelling. -/
def ofSpelling? (spelling : Text) : Option Flag :=
  spellings.lookup spelling

/-- An option is named by all its spellings. -/
def name (flag : Flag) : Text :=
  List.intercalate ['/'] ((spellings.filter (·.2 = flag)).map (·.1))

/-- Whether the option has a value. -/
def takesValue (flag : Flag) : Bool :=
  flag = .format

end Flag

/-- Why arguments are refused. -/
inductive UsageError where
  /-- The argument abbreviates more than one option. -/
  | ambiguous (argument : Text) (spellings : List Text)
  /-- An option without a value is given one. -/
  | ignoredValue (flag : Flag) (value : Text)
  /-- An option with a value is given none. -/
  | missingValue (flag : Flag)
  /-- The value is none of the choices. -/
  | invalidChoice (flag : Flag) (value : Text) (choices : List Text)
  /-- The arguments have no use. -/
  | unrecognized (arguments : List Text)
  deriving DecidableEq

/-- The wording of a refusal. -/
def UsageError.message : UsageError → Text
  | .ambiguous argument spellings =>
      "ambiguous option: ".toList ++ argument ++ " could match ".toList ++
        List.intercalate ", ".toList spellings
  | .ignoredValue flag value =>
      "argument ".toList ++ flag.name ++ ": ignored explicit argument ".toList ++
        Text.quoted value
  | .missingValue flag => "argument ".toList ++ flag.name ++ ": expected one argument".toList
  | .invalidChoice flag value choices =>
      "argument ".toList ++ flag.name ++ ": invalid choice: ".toList ++ Text.quoted value ++
        " (choose from ".toList ++ List.intercalate ", ".toList (choices.map Text.quoted) ++
        ")".toList
  | .unrecognized arguments =>
      "unrecognized arguments: ".toList ++ List.intercalate [' '] arguments

/-! ## The first pass -/

/-- What an argument is, by itself. -/
inductive Item where
  /-- An argument that is no option. -/
  | plain (argument : Text)
  /-- The two dashes after which no argument is an option. -/
  | separator
  /-- An option by one of its spellings, with the value that the argument holds, if any. -/
  | option (flag : Flag) (spelling : Text) (value : Option Text)
  /-- An argument that looks like an option and is none. -/
  | unknown (argument : Text)

/-- The two dashes after which no argument is an option. -/
def dashes : Text := ['-', '-']

/-- The text of an argument in front of its first sign of equality, and the text behind it,
if there is one. -/
def splitValue (argument : Text) : Text × Option Text :=
  match argument.dropWhile (· != '=') with
  | [] => (argument, none)
  | _ :: value => (argument.takeWhile (· != '='), some value)

/-- Whether the text is a minus sign and a decimal number in digits of any script: digits, or
a point with digits behind it and perhaps in front.  One line feed may follow. -/
def isNegativeNumber : Text → Bool
  | '-' :: number =>
      let number := if number.getLast? = some '\n' then number.dropLast else number
      let whole := number.takeWhile Text.isDecimalDigit
      match number.dropWhile Text.isDecimalDigit with
      | [] => whole ≠ []
      | '.' :: fraction => fraction ≠ [] && fraction.all Text.isDecimalDigit
      | _ => false
  | _ => false

/-- The options that an argument may stand for without being one of their spellings.  Behind
two dashes any beginning of a spelling stands for it; behind one dash the first letter is
the option and the rest its value. -/
def candidates (argument : Text) : List (Flag × Text × Option Text) :=
  match argument with
  | '-' :: '-' :: _ =>
      let (start, value) := splitValue argument
      (Flag.spellings.filter fun entry => start.isPrefixOf entry.1).map fun (spelling, flag) =>
        (flag, spelling, value)
  | '-' :: letter :: value =>
      match Flag.ofSpelling? ['-', letter] with
      | some flag => [(flag, ['-', letter], some value)]
      | none => []
  | _ => []

/-- What an argument in front of the two dashes is. -/
def Item.ofArgument (argument : Text) : Except UsageError Item :=
  if argument.head? ≠ some '-' then
    .ok (.plain argument)
  else
    match Flag.ofSpelling? argument with
    | some flag => .ok (.option flag argument none)
    | none =>
        let (spelling, value) := splitValue argument
        match value, Flag.ofSpelling? spelling with
        | some _, some flag => .ok (.option flag spelling value)
        | _, _ =>
            match candidates argument with
            | [(flag, spelling, value)] => .ok (.option flag spelling value)
            | [] =>
                if argument = ['-'] ∨ isNegativeNumber argument ∨ argument.contains ' ' then
                  .ok (.plain argument)
                else
                  .ok (.unknown argument)
            | several => .error (.ambiguous argument (several.map (·.2.1)))

/-- What the arguments are. -/
def Item.ofArguments : List Text → Except UsageError (List Item)
  | [] => .ok []
  | argument :: rest =>
      if argument = dashes then
        .ok (.separator :: rest.map .plain)
      else do
        let item ← Item.ofArgument argument
        let items ← Item.ofArguments rest
        return item :: items

/-! ## The second pass -/

/-- What the options ask for. -/
structure Options where
  /-- The source argument. -/
  source : Option Text := none
  /-- Whether the source argument is the source text. -/
  isText : Bool := false
  /-- Whether the tokens are shown in place of the tree. -/
  showTokens : Bool := false
  /-- The form in which the tree is shown. -/
  format : Text := "tree".toList
  /-- Whether the log is shown. -/
  verbose : Bool := false
  deriving DecidableEq

/-- What ends the reading of arguments before their end. -/
inductive Stop where
  | help
  | version
  | usage (error : UsageError)
  deriving DecidableEq

/-- The form that a value chooses.  Two dashes are taken off the values of an option; what
then remains is the empty list of forms, which no check refuses. -/
def chooseFormat (value : Text) : Except UsageError Text :=
  if value = dashes then .ok "[]".toList
  else if formats.contains value then .ok value
  else .error (.invalidChoice .format value formats)

/-- Obey one option. -/
def Options.obey (options : Options) : Flag × Option Text → Except Stop Options
  | (.help, _) => .error .help
  | (.version, _) => .error .version
  | (.string, _) => .ok { options with isText := true }
  | (.tokens, _) => .ok { options with showTokens := true }
  | (.verbose, _) => .ok { options with verbose := true }
  | (.format, value) =>
      match chooseFormat (value.getD []) with
      | .ok format => .ok { options with format := format }
      | .error error => .error (.usage error)

/-- The options that are joined in one argument: after an option of one letter that has no
value, the value that the argument holds is a further letter with a value of its own. -/
def joined (flag : Flag) (spelling : Text) :
    Text → Except UsageError (List (Flag × Option Text))
  | [] =>
      if flag.takesValue then .ok [(flag, some [])] else .error (.ignoredValue flag [])
  | letter :: value =>
      if flag.takesValue then
        .ok [(flag, some (letter :: value))]
      else if dashes.isPrefixOf spelling then
        .error (.ignoredValue flag (letter :: value))
      else
        match Flag.ofSpelling? ['-', letter] with
        | none => .error (.ignoredValue flag (letter :: value))
        | some next =>
            if value = [] then
              .ok [(flag, none), (next, none)]
            else
              (joined next ['-', letter] value).map ((flag, none) :: ·)

/-- Give the last of joined options its value from the items that follow, if it needs one
there.  The answer also shows the items left. -/
def supply (flags : List (Flag × Option Text)) (items : List Item) :
    Except UsageError (List (Flag × Option Text) × List Item) :=
  match flags.getLast?, items with
  | some (.format, none), .plain argument :: rest =>
      .ok (flags.dropLast ++ [(.format, some argument)], rest)
  | some (.format, none), _ => .error (.missingValue .format)
  | _, _ => .ok (flags, items)

/-- The options of one argument and the items left behind it. -/
def gather (flag : Flag) (spelling : Text) (value : Option Text) (items : List Item) :
    Except UsageError (List (Flag × Option Text) × List Item) :=
  match value with
  | none => supply [(flag, none)] items
  | some text => joined flag spelling text >>= fun flags => supply flags items

theorem length_le_of_supply {items rest : List Item} {flags given : List (Flag × Option Text)}
    (supplyEq : supply flags items = .ok (given, rest)) : rest.length ≤ items.length := by
  unfold supply at supplyEq
  split at supplyEq <;> cases supplyEq <;> simp

theorem length_le_of_gather {flag : Flag} {spelling : Text} {value : Option Text}
    {items rest : List Item} {flags : List (Flag × Option Text)}
    (gatherEq : gather flag spelling value items = .ok (flags, rest)) :
    rest.length ≤ items.length := by
  unfold gather at gatherEq
  cases value with
  | none => exact length_le_of_supply gatherEq
  | some text =>
      cases joinedEq : joined flag spelling text with
      | error error => simp [joinedEq, bind, Except.bind] at gatherEq
      | ok several =>
          simp only [joinedEq, bind, Except.bind] at gatherEq
          exact length_le_of_supply gatherEq

/-- The reading of arguments: the options so far, whether the source argument has been read,
and the arguments that have no use. -/
structure Reading where
  /-- The options so far. -/
  options : Options := {}
  /-- Whether the place of the source argument has been passed. -/
  sourcePassed : Bool := false
  /-- The arguments that have no use. -/
  unused : List Text := []

/-- Pass the place of the source argument. -/
def Reading.passSource (reading : Reading) (source : Option Text) : Reading :=
  { reading with
    options := { reading.options with source := source }
    sourcePassed := true }

/-- Keep an argument that has no use. -/
def Reading.keep (reading : Reading) (argument : Text) : Reading :=
  { reading with unused := reading.unused ++ [argument] }

/-- Read the items from left to right. -/
def Reading.readItems (reading : Reading) : List Item → Except Stop Reading
  | [] => .ok reading
  | .plain argument :: .separator :: rest =>
      if reading.sourcePassed then
        ((reading.keep argument).keep dashes).readItems rest
      else
        (reading.passSource (some argument)).readItems rest
  | .plain argument :: rest =>
      if reading.sourcePassed then
        (reading.keep argument).readItems rest
      else
        (reading.passSource (some argument)).readItems rest
  | .separator :: .plain argument :: rest =>
      if reading.sourcePassed then
        ((reading.keep dashes).keep argument).readItems rest
      else
        (reading.passSource (some argument)).readItems rest
  | .separator :: rest =>
      if reading.sourcePassed then
        (reading.keep dashes).readItems rest
      else
        (reading.passSource none).readItems rest
  | .unknown argument :: rest => (reading.keep argument).readItems rest
  | .option flag spelling value :: rest =>
      match _gatherEq : gather flag spelling value rest with
      | .error error => .error (.usage error)
      | .ok (flags, rest) => do
          let options ← flags.foldlM Options.obey reading.options
          { reading with options := options }.readItems rest
  termination_by items => items.length
  decreasing_by
    all_goals try (simp only [List.length_cons]; omega)
    have := length_le_of_gather _gatherEq
    simp only [List.length_cons]
    omega

/-- The options that the arguments ask for. -/
def Options.ofArguments (arguments : List Text) : Except Stop Options := do
  let items ← (Item.ofArguments arguments).mapError .usage
  let reading ← Reading.readItems {} items
  if reading.unused = [] then
    return reading.options
  else
    throw (.usage (.unrecognized reading.unused))

end Lunette.Command
