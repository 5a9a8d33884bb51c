import RecordQuery.Derive.Generics
import RecordQuery.Derive.Options

namespace RecordQuery.Derive

inductive ItemKind where
  | struct
  | tuple
  | unit
  | enum
  | union
  deriving DecidableEq, Repr

structure Field where
  name : String
  type : String
  attributes : List String
  deriving DecidableEq, Repr

/-- A declaration as it is written, with the inside of each attribute as text. -/
structure Item where
  kind : ItemKind
  name : String
  generics : String
  attributes : List String
  fields : List Field
  deriving DecidableEq, Repr

structure Exposed where
  name : String
  member : String
  type : String
  masked : Bool
  deriving DecidableEq, Repr

structure Derivation where
  targetName : String
  fields : List Exposed
  accessors : List AccessorDecl
  deriving DecidableEq, Repr

/-- What a text that has to be read gives; text that cannot be read is refused. -/
def wellFormed {α : Type} : Option α → Except Refusal α
  | some a => .ok a
  | none => .error .malformed

def lexAll (texts : List String) : Except Refusal (List (List Token)) :=
  wellFormed (texts.mapM Lexer.tokens)

def wordOf (text : String) : Option String := do
  match ← Lexer.tokens text with
  | [.word n] => some n
  | _ => none

def nameOf (text : String) : Option String :=
  (wordOf text).filter Token.isName

def fieldNameOf (text : String) : Option String :=
  (wordOf text).filter fun n => Token.isName n || n = "_"

def typeOf (text : String) : Option String := do
  let (_, printed) ← Scan.whole (fun g => g.type true) (← Lexer.tokens text)
  return Token.textOf printed

structure LexedField where
  name : String
  type : String
  attributes : List (List Token)

def Field.lex (f : Field) : Except Refusal LexedField := do
  return ⟨← wellFormed (fieldNameOf f.name), ← wellFormed (typeOf f.type), ← lexAll f.attributes⟩

namespace Item

def lexFields (item : Item) : Except Refusal (List LexedField) :=
  match item.kind with
  | .struct | .union => item.fields.mapM Field.lex
  | .tuple | .unit | .enum => .ok []

def checkKind (item : Item) : Except Refusal Unit :=
  match item.kind with
  | .struct => .ok ()
  | .tuple | .unit => .error .unnamedFields
  | .enum | .union => .error .notStructure

/-- The exposed fields in their order, after those whose names are in `seen`. A field that is left
out takes no name. -/
def expose (seen : List String) : List LexedField → Except Refusal (List Exposed)
  | [] => .ok []
  | f :: fs => do
    let o ← FieldOptions.ofAttributes f.attributes
    if o.skip then expose seen fs
    else
      let name := o.rename.getD f.name
      if seen.contains name then .error (.duplicateName name)
      else return ⟨name, f.name, f.type, o.masked⟩ :: (← expose (seen ++ [name]) fs)

/-- The attributes of the whole come first, then its kind, then field by field. -/
def derive (item : Item) : Except Refusal Derivation := do
  let itemName ← wellFormed (nameOf item.name)
  let attributes ← lexAll item.attributes
  let fields ← item.lexFields
  let o ← ItemOptions.ofAttributes attributes
  item.checkKind
  return ⟨o.name.getD itemName, ← expose [] fields, o.accessors⟩

end Item

/-- The body of a method: a literal, or the arms of a match by pattern. -/
inductive Body where
  | literal (text : String)
  | arms (arms : List (String × String))
  deriving DecidableEq, Repr

structure Method where
  name : String
  body : Body
  deriving DecidableEq, Repr

structure Implementation where
  interface : String
  generics : String
  condition : String
  target : String
  methods : List Method
  deriving DecidableEq, Repr

def optionPath : String := ":: core :: option :: Option"

def present (expression : String) : String :=
  optionPath ++ " :: Some (" ++ expression ++ ")"

def absentArm : String × String := ("_", optionPath ++ " :: None")

def typedBy (type : String) : String :=
  present ("< " ++ type ++ " as :: quarry :: Typed > :: value_type ()")

namespace Exposed

def valueArm (f : Exposed) : String × String :=
  let function := if f.masked then ":: quarry :: Value :: opaque" else
    ":: quarry :: IntoValue :: into_value"
  (textLiteral f.name, present (function ++ " (& self . " ++ f.member ++ ")"))

def typeArm (f : Exposed) : String × String :=
  (textLiteral f.name,
    if f.masked then
      present (":: quarry :: ValueType :: Other (:: core :: any :: type_name :: < " ++ f.type ++
        " > ())")
    else typedBy f.type)

end Exposed

namespace AccessorDecl

def valueArm (a : AccessorDecl) : String × String :=
  (textLiteral a.method, present (":: quarry :: IntoValue :: into_value (self . " ++ a.method ++ " ())"))

def typeArm (a : AccessorDecl) : String × String :=
  (textLiteral a.method, typedBy a.type)

end AccessorDecl

namespace Derivation

def methodsOf (d : Derivation) (nameMethod fieldMethod accessorMethod : String)
    (fieldArm : Exposed → String × String) (accessorArm : AccessorDecl → String × String) :
    List Method :=
  [⟨nameMethod, .literal (textLiteral d.targetName)⟩,
    ⟨fieldMethod, .arms (d.fields.map fieldArm ++ [absentArm])⟩] ++
  if d.accessors.isEmpty then []
  else [⟨accessorMethod, .arms (d.accessors.map accessorArm ++ [absentArm])⟩]

def lookupMethods (d : Derivation) : List Method :=
  d.methodsOf "target_name" "field" "accessor" Exposed.valueArm AccessorDecl.valueArm

def typeMethods (d : Derivation) : List Method :=
  d.methodsOf "type_name" "field_type" "accessor_type" Exposed.typeArm AccessorDecl.typeArm

end Derivation

def Item.implementations (item : Item) : Except Refusal (List Implementation) := do
  let name ← wellFormed (nameOf item.name)
  let g ← wellFormed (Generics.read item.generics)
  let d ← item.derive
  let arguments := g.arguments
  let target := if arguments.isEmpty then name else name ++ " " ++ arguments
  return [⟨"Attributes", g.declaration, g.condition, target, d.lookupMethods⟩,
    ⟨"Describe", g.declaration, g.condition, target, d.typeMethods⟩]

end RecordQuery.Derive
