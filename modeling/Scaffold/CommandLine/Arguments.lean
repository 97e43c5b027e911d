import Scaffold.CommandLine.Grammar

/-!
# Arguments one by one

Arguments are taken from left to right.  An option's value is looked at only when
the next option or argument has been understood, or at the end; so a value that
cannot be is reported after an argument that means nothing.

What starts with a dash is an option even where a value is awaited.  After two
dashes alone there are no options any more, and no awaited values.

## Main definitions

* `Arguments` — what has been taken so far.
* `Arguments.take`, `Arguments.settle` — an option with its value.
* `Arguments.step` — one argument.
* `Arguments.finish` — the end of the arguments.
-/

namespace Scaffold

/-- What has been taken so far. -/
structure Arguments where
  /-- The options with their values; the value of one that takes none is empty. -/
  found : List (CommandOption × String) := []
  /-- The last option, while its value has not been looked at. -/
  pending : Option (CommandOption × Option String) := none
  /-- The arguments that are no options. -/
  places : List String := []
  /-- There are no options any more. -/
  literal : Bool := false
  deriving Repr

namespace Arguments

/-- The value of an option. -/
def value? (a : Arguments) (o : CommandOption) : Option String := a.found.lookup o

/-- The option has been taken. -/
def has (a : Arguments) (o : CommandOption) : Bool := (a.value? o).isSome

/-- How often an option has been taken. -/
def count (a : Arguments) (o : CommandOption) : Nat := (a.found.map (·.1)).count o

/-- One more option. -/
def add (a : Arguments) (o : CommandOption) (v : String) : Arguments :=
  { a with found := a.found ++ [(o, v)] }

/-- The last option still awaits its value. -/
def awaitsValue (a : Arguments) : Bool :=
  match a.pending with
  | some (_, none) => !a.literal
  | _ => false

/-! ### Options -/

/-- An option that may stand once. -/
def addOnce (a : Arguments) (o : CommandOption) (v : String) : Except UsageFault Arguments :=
  if a.has o then .error .repeated
  else if o.value == .path && v.isEmpty then .error .badValue
  else .ok (a.add o v)

/-- Take an option with what follows it. -/
def take (a : Arguments) (o : CommandOption) (v : Option String) : Except UsageFault Arguments :=
  match o, v with
  | .help, _ => .error .helpWanted
  | .version, _ => .error .versionWanted
  | .verbose, _ => .ok (a.add .verbose "")
  | o, some v => a.addOnce o v
  | o, none => if o.takesValue then .error .badValue else a.addOnce o ""

/-- Look at the value of the last option. -/
def settle (a : Arguments) : Except UsageFault Arguments :=
  match a.pending with
  | none => .ok a
  | some (o, v) => { a with pending := none }.take o v

/-- Take an option that is complete. -/
def takeNext (a : Arguments) (o : CommandOption) (v : Option String) :
    Except UsageFault Arguments := do
  (← a.settle).take o v

/-- An option whose value is the next argument. -/
def await (a : Arguments) (o : CommandOption) : Except UsageFault Arguments := do
  return { ← a.settle with pending := some (o, none) }

/-- An option by its name, perhaps with a value behind an equals sign. -/
def takeLong (g : Grammar) (a : Arguments) (text : List Char) : Except UsageFault Arguments :=
  let name := text.takeWhile (· != '=')
  match g.byName? name, text.drop name.length with
  | none, _ => .error .argumentUnknown
  | some o, [] => if o.takesValue then a.await o else a.takeNext o none
  | some o, _ :: v =>
    if o.takesValue then a.takeNext o (some (.ofList v)) else .error .valueUnwanted

/-- The text without an equals sign at its start. -/
def dropEquals : List Char → List Char
  | '=' :: v => v
  | v => v

/-- Options by their letters.  The first that takes a value has all that follows
it for one. -/
def takeLetters (g : Grammar) (a : Arguments) : List Char → Except UsageFault Arguments
  | [] => .ok a
  | c :: rest =>
    match g.byLetter? c with
    | none => .error .argumentUnknown
    | some o =>
      if o.takesValue then
        if rest.isEmpty then a.await o else a.takeNext o (some (.ofList (dropEquals rest)))
      else do takeLetters g (← a.takeNext o none) rest

/-! ### Arguments -/

/-- An argument that is no option. -/
def place (g : Grammar) (a : Arguments) (text : String) : Except UsageFault Arguments := do
  if a.places.length < g.places then
    let a ← a.settle
    return { a with places := a.places ++ [text] }
  else throw .argumentUnknown

/-- One more argument. -/
def step (g : Grammar) (a : Arguments) (text : String) : Except UsageFault Arguments :=
  if a.literal then a.place g text
  else match text.toList, a.pending with
    | ['-', '-'], _ => .ok { a with literal := true }
    | '-' :: '-' :: rest, _ => a.takeLong g rest
    | '-' :: c :: rest, _ => a.takeLetters g (c :: rest)
    | _, some (o, none) => .ok { a with pending := some (o, some text) }
    | _, _ => a.place g text

/-- The end of the arguments. -/
def finish (a : Arguments) : Except UsageFault Arguments := a.settle

/-- All arguments. -/
def read (g : Grammar) (args : List String) : Except UsageFault Arguments := do
  (← args.foldlM (step g) {}).finish

end Arguments

end Scaffold
