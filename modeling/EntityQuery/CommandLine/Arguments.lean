import EntityQuery.CommandLine.Request

/-!
# Arguments

Command line arguments are read from left to right: options that hold for every command, the command,
then its options and its entity. An option's value follows it in the same argument or in the next one;
two dashes alone end the options. The first argument that cannot be read ends the reading, and so does
a request for the version.
-/

namespace EntityQuery.CommandLine

inductive Opt where
  | filter
  | sort
  | offset
  | limit
  | populate
  | groupBy
  | assignment
  | object
  | componentsFirst
  | pageSize
  deriving DecidableEq

/-- A number of 32 bits: a whole number in that range, with a sign if one likes. -/
def readUInt32? (s : String) : Option UInt32 :=
  (Number.readInteger? s).bind fun n =>
    if 0 ≤ n.toInt ∧ n.toInt < UInt32.size then some (UInt32.ofNat n.toInt.toNat) else none

/-- A number of 64 bits: digits, with a plus if one likes. -/
def readUInt64? (s : String) : Option UInt64 :=
  if s.toList.head? = some '-' then none
  else (Number.readInt? s).bind fun n =>
    if n < UInt64.size then some (UInt64.ofNat n.toNat) else none

structure OptForm where
  long : String
  short : Option Char := none
  takesValue : Bool := true
  /-- Whether it may be given more than once. -/
  repeatable : Bool := false
  /-- The values it accepts. -/
  accepts : String → Bool := fun _ => true

def Opt.form : Opt → OptForm
  | filter => { long := "where", short := some 'w', repeatable := true }
  | sort => { long := "sort", short := some 's', repeatable := true }
  | offset => { long := "offset", accepts := fun s => (readUInt64? s).isSome }
  | limit => { long := "limit", short := some 'l', accepts := fun s => (readUInt64? s).isSome }
  | populate => { long := "populate", short := some 'p', repeatable := true }
  | groupBy => { long := "group-by", repeatable := true }
  | assignment => { long := "set", repeatable := true }
  | object => { long := "values" }
  | componentsFirst => { long := "remove-components", takesValue := false }
  | pageSize => { long := "page-size", accepts := fun s => (readUInt32? s).isSome }

def Command.ofName? (name : String) : Option Command :=
  if name = "select" then some .select
  else if name = "create" then some .create
  else if name = "update" then some .update
  else if name = "delete" then some .delete
  else none

def rowOptions : List Opt := [.filter, .sort, .offset, .limit]

def Command.options : Command → List Opt
  | select => [.pageSize, .populate, .groupBy] ++ rowOptions
  | create => [.pageSize, .assignment, .object]
  | update => [.pageSize, .assignment, .object] ++ rowOptions
  | delete => [.pageSize, .componentsFirst] ++ rowOptions

inductive Stop where
  /-- The arguments make no sense. -/
  | usage
  /-- The version was asked for. -/
  | version
  deriving DecidableEq

inductive Shape where
  /-- Two dashes alone. -/
  | separator
  /-- Two dashes, a name and perhaps a value after an equals sign. -/
  | long (name : String) (value : Option String)
  /-- One dash, a letter and what follows it. -/
  | short (letter : Char) (rest : List Char)
  | plain

def Shape.of (arg : String) : Shape :=
  match arg.toList with
  | ['-', '-'] => separator
  | '-' :: '-' :: cs =>
    long (String.ofList (cs.takeWhile (· != '=')))
      (match cs.dropWhile (· != '=') with
        | [] => none
        | _ :: value => some (String.ofList value))
  | '-' :: letter :: rest => short letter rest
  | _ => plain

/-- What has been given at one level: before the command, or after it. -/
structure Given where
  values : List (Opt × String) := []
  entity : Option String := none
  /-- The option whose value is due. -/
  pending : Option Opt := none
  /-- Whether the options have ended. -/
  ended : Bool := false

namespace Given

def has (g : Given) (o : Opt) : Bool := g.values.any (·.1 == o)

def all (g : Given) (o : Opt) : List String := (g.values.filter (·.1 == o)).map (·.2)

def value? (g : Given) (o : Opt) : Option String := (g.all o).head?

def add (g : Given) (o : Opt) (value : String) : Except Stop Given :=
  if o.form.accepts value && (o.form.repeatable || !g.has o) then
    .ok { g with values := g.values ++ [(o, value)], pending := none }
  else .error .usage

/-- An option by itself or with a value in the same argument. A value that is due must come first. -/
def option (g : Given) (o : Opt) (value : Option String) : Except Stop Given :=
  if g.pending.isSome then .error .usage
  else
    match o.form.takesValue, value with
    | true, none => .ok { g with pending := some o }
    | true, some v => g.add o v
    | false, none => g.add o ""
    | false, some _ => .error .usage

def separator (g : Given) : Except Stop Given :=
  if g.pending.isSome then .error .usage else .ok { g with ended := true }

def positional (g : Given) (arg : String) : Except Stop Given :=
  if g.entity.isSome then .error .usage else .ok { g with entity := some arg }

/-- The value after an option's letter; an equals sign between them is dropped. -/
def attached : List Char → Option String
  | [] => none
  | '=' :: cs => some (String.ofList cs)
  | cs => some (String.ofList cs)

def step (options : List Opt) (g : Given) (arg : String) : Except Stop Given :=
  if g.ended then g.positional arg
  else
    match Shape.of arg with
    | .separator => g.separator
    | .long name value =>
      match options.find? (·.form.long == name) with
      | some o => g.option o value
      | none => .error .usage
    | .short letter rest =>
      match options.find? (·.form.short == some letter) with
      | some o => g.option o (attached rest)
      | none => .error .usage
    | .plain =>
      match g.pending with
      | some o => g.add o arg
      | none => g.positional arg

def stepBefore (g : Given) (arg : String) : Except Stop Given :=
  if g.ended then .error .usage
  else
    match Shape.of arg with
    | .separator => g.separator
    | .long name value =>
      if name = Opt.pageSize.form.long then g.option .pageSize value
      else if name = "version" ∧ value = none ∧ g.pending = none then .error .version
      else .error .usage
    | .short letter _ =>
      if letter = 'V' ∧ g.pending = none then .error .version else .error .usage
    | .plain =>
      match g.pending with
      | some o => g.add o arg
      | none => .error .usage

end Given

def splitCommand (g : Given) : List String → Except Stop (Given × Command × List String)
  | [] => .error .usage
  | arg :: rest =>
    match Command.ofName? arg with
    | some command =>
      if g.pending.isNone && !g.ended then .ok (g, command, rest)
      else do splitCommand (← g.stepBefore arg) rest
    | none => do splitCommand (← g.stepBefore arg) rest

/-- Whether the page size that the environment names will do at this level: an option beside it
takes its place there. -/
def Given.acceptsEnvironment (g : Given) (environment : Option String) : Bool :=
  g.has .pageSize || environment.all Opt.pageSize.form.accepts

/-- The request that the arguments make. `environment` is the page size that the environment names. -/
def Request.ofArguments (args : List String) (environment : Option String) :
    Except Stop Request := do
  let (before, command, rest) ← splitCommand {} args
  let given ← rest.foldlM (Given.step command.options) {}
  let some entity := given.entity | .error .usage
  if given.pending.isSome then .error .usage
  if !(before.acceptsEnvironment environment && given.acceptsEnvironment environment) then
    .error .usage
  let pageSize := ((given.value? .pageSize).or (before.value? .pageSize)).or environment
  return {
    command, entity
    filters := given.all .filter
    populate := given.all .populate
    groupBy := given.all .groupBy
    sort := given.all .sort
    offset := (given.value? .offset).bind readUInt64?
    limit := (given.value? .limit).bind readUInt64?
    assignments := given.all .assignment
    object := given.value? .object
    pageSize := pageSize.bind readUInt32?
    componentsFirst := given.has .componentsFirst }

end EntityQuery.CommandLine
