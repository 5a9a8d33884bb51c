import RecordQuery.Derive.Meta.Reader

namespace RecordQuery.Derive

inductive Refusal where
  | malformed
  | unknownFieldMeta
  | unknownItemMeta
  | notText (key : String)
  | skipConflict
  | duplicateName (name : String)
  | unnamedFields
  | notStructure
  deriving DecidableEq, Repr

/-- The message of a refusal; text that is not made of entries at all has none. -/
def Refusal.message : Refusal → Option String
  | malformed => none
  | unknownFieldMeta =>
    some "unknown quarry field attribute. Expected: skip, opaque, or rename = \"...\""
  | unknownItemMeta =>
    some "unknown quarry attribute. Expected: name = \"...\" or accessors(method: Type, ...)"
  | notText key => some (key ++ " must be a string literal")
  | skipConflict => some "skip cannot be combined with opaque or rename"
  | duplicateName name => some ("duplicate quarry attribute name '" ++ name ++ "'")
  | unnamedFields => some "Attributes can only be derived for structs with named fields"
  | notStructure => some "Attributes can only be derived for structs"

def MetaValue.textFor (key : String) : MetaValue → Except Refusal String
  | text s => .ok s
  | expression => .error (.notText key)

def metasOf (tokens : List Token) : Except Refusal (List Meta) :=
  match Meta.ofTokens tokens with
  | some metas => .ok metas
  | none => .error .malformed

/-- A field may be left out, shown by the name of its type alone, or renamed. -/
structure FieldOptions where
  skip : Bool
  masked : Bool
  rename : Option String
  deriving DecidableEq, Repr

namespace FieldOptions

def none : FieldOptions :=
  ⟨false, false, .none⟩

def add (o : FieldOptions) : Meta → Except Refusal FieldOptions
  | .path (some "skip") => .ok { o with skip := true }
  | .path (some "opaque") => .ok { o with masked := true }
  | .value (some "rename") v => do
    let s ← v.textFor "rename"
    return { o with rename := some s }
  | _ => .error .unknownFieldMeta

/-- Within one attribute, a field that is left out takes no other option. -/
def ofMetas (metas : List Meta) : Except Refusal FieldOptions := do
  let o ← metas.foldlM add none
  if o.skip && (o.masked || o.rename.isSome) then .error .skipConflict else return o

/-- The last new name counts. -/
def merge (o p : FieldOptions) : FieldOptions :=
  ⟨o.skip || p.skip, o.masked || p.masked, p.rename.or o.rename⟩

def ofAttributes (attributes : List (List Token)) : Except Refusal FieldOptions :=
  attributes.foldlM
    (fun o tokens => do return o.merge (← ofMetas (← metasOf tokens))) none

end FieldOptions

structure ItemOptions where
  name : Option String
  accessors : List AccessorDecl
  deriving DecidableEq, Repr

namespace ItemOptions

def none : ItemOptions :=
  ⟨.none, []⟩

def add (o : ItemOptions) : Meta → Except Refusal ItemOptions
  | .value (some "name") v => do
    let s ← v.textFor "name"
    return { o with name := some s }
  | .list (some "accessors") tokens =>
    match AccessorDecl.ofTokens tokens with
    | some more => .ok { o with accessors := o.accessors ++ more }
    | .none => .error .malformed
  | _ => .error .unknownItemMeta

def ofMetas (metas : List Meta) : Except Refusal ItemOptions :=
  metas.foldlM add none

/-- The last name counts, and the accessors of all attributes are kept. -/
def merge (o p : ItemOptions) : ItemOptions :=
  ⟨p.name.or o.name, o.accessors ++ p.accessors⟩

def ofAttributes (attributes : List (List Token)) : Except Refusal ItemOptions :=
  attributes.foldlM
    (fun o tokens => do return o.merge (← ofMetas (← metasOf tokens))) none

end ItemOptions

end RecordQuery.Derive
