import ExceptionFlow.Options
import ExceptionFlow.Options.Value

set_option autoImplicit false

/-! # Reading options

The options are written as an object of named settings, in any order and none of them twice, or as
an array of settings in the order of their names below. Settings that are left out keep their
defaults. In the tables that some options hold, the last of several entries for one name counts. -/

namespace ExceptionFlow.Options

/-! ## Values of settings -/

def Value.bool? : Value → Option Bool
  | .bool b => some b
  | _ => none

def Value.text? : Value → Option String
  | .text s => some s
  | _ => none

def Value.texts? : Value → Option (List String)
  | .array items => items.mapM Value.text?
  | _ => none

/-- A table with values read by `item?`. -/
def Value.table? {α : Type} (item? : Value → Option α) : Value → Option (NameTable α)
  | .object members =>
    (members.mapM fun member => (item? member.2).map (member.1, ·)).map Catalog.ofList
  | _ => none

/-! ## Settings -/

/-- The names of the settings in the order in which an array gives them. -/
def settingNames : List String :=
  ["reportUnusedCatchesOfUncheckedExceptions", "reportUnusedCheckedThrowsInSubtypes",
   "reportCheckedThrowsInGlobalScope", "checkedExceptions", "uncheckedExceptions",
   "methodThrowTypeDeclarations", "functionThrowTypeDeclarations", "methodWhitelist"]

/-- Set one option by its name. -/
def set? (o : Options) (name : String) (value : Value) : Option Options :=
  match name with
  | "reportUnusedCatchesOfUncheckedExceptions" =>
    value.bool?.map fun b => { o with reportUnusedCatchesOfUncheckedExceptions := b }
  | "reportUnusedCheckedThrowsInSubtypes" =>
    value.bool?.map fun b => { o with reportUnusedCheckedThrowsInSubtypes := b }
  | "reportCheckedThrowsInGlobalScope" =>
    value.bool?.map fun b => { o with reportCheckedThrowsInGlobalScope := b }
  | "checkedExceptions" => value.texts?.map fun names => { o with checkedExceptions := names }
  | "uncheckedExceptions" => value.texts?.map fun names => { o with uncheckedExceptions := names }
  | "methodThrowTypeDeclarations" =>
    (value.table? (Value.table? Value.texts?)).map fun t =>
      { o with methodThrowTypeDeclarations := t }
  | "functionThrowTypeDeclarations" =>
    (value.table? Value.texts?).map fun t => { o with functionThrowTypeDeclarations := t }
  | "methodWhitelist" => (value.table? Value.text?).map fun t => { o with methodWhitelist := t }
  | _ => none

/-- The options with the given settings, which must have different names. -/
def ofSettings? (settings : List (String × Value)) : Option Options :=
  if (settings.map Prod.fst).Nodup then
    settings.foldlM (fun o setting => o.set? setting.1 setting.2) {}
  else none

def ofValue? : Value → Option Options
  | .object members => ofSettings? members
  | .array items =>
    if items.length ≤ settingNames.length then ofSettings? (settingNames.zip items) else none
  | _ => none

/-- The options that a text writes. -/
def ofText (text : String) : Except ConfigError Options :=
  match (Value.ofText? text).bind ofValue? with
  | some o => .ok o
  | none => .error .malformed

end ExceptionFlow.Options
