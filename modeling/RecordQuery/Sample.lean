import RecordQuery.Derive.Instance

namespace RecordQuery

namespace Integer

def ofUInt8 (n : UInt8) : Integer :=
  ⟨.u8, n.toNat, by
    have := n.toNat_lt
    simp only [Width.Fits, Width.least, Width.greatest]; omega⟩

def ofUInt64 (n : UInt64) : Integer :=
  ⟨.u64, n.toNat, by
    have := n.toNat_lt
    simp only [Width.Fits, Width.least, Width.greatest]; omega⟩

def ofInt64 (n : Int64) : Integer :=
  ⟨.i64, n.toInt, by
    have := n.le_toInt
    have := n.toInt_lt
    simp only [Width.Fits, Width.least, Width.greatest]; omega⟩

end Integer

/-- What the traits of the values say of the types that the samples are declared with. -/
def Sample.types : Derive.Typing where
  valueType
    | "String" | "& str" | "& 'static str" | "& 'a str" | "Cow < 'a , str >" => some .text
    | "u8" => some (.integer .u8)
    | "i64" => some (.integer .i64)
    | "usize" => some (.integer .u64)
    | "f32" => some (.float .single)
    | "bool" => some .bool
    | "Timestamp" => some .timestamp
    | _ => none
  fullName
    | "Vec < u8 >" => "alloc::vec::Vec<u8>"
    | type => type

/-- An animal. Its photo is never looked into, and what its methods return is given with it. -/
structure Pet where
  animal : String
  color : String
  age : UInt8
  weight : BitVec Precision.single.width
  vaccinated : Bool
  adopted : Timestamp
  tagId : Int64
  legCount : UInt64
  shout : String
  nickname : String

namespace Pet

def declaration : Derive.Item :=
  ⟨.struct, "Pet", "", ["accessors(leg_count: usize, shout: String, nickname: &str)"],
    [⟨"animal", "String", []⟩, ⟨"color", "&'static str", []⟩, ⟨"age", "u8", []⟩,
      ⟨"weight", "f32", []⟩, ⟨"vaccinated", "bool", []⟩, ⟨"adopted", "Timestamp", []⟩,
      ⟨"tag_id", "i64", ["rename = \"tag\""]⟩, ⟨"photo", "Vec<u8>", ["opaque"]⟩,
      ⟨"legs", "Vec<&'static str>", ["skip"]⟩]⟩

def derivation : Derive.Derivation where
  targetName := "Pet"
  fields := [⟨"animal", "animal", "String", false⟩, ⟨"color", "color", "& 'static str", false⟩,
    ⟨"age", "age", "u8", false⟩, ⟨"weight", "weight", "f32", false⟩,
    ⟨"vaccinated", "vaccinated", "bool", false⟩, ⟨"adopted", "adopted", "Timestamp", false⟩,
    ⟨"tag", "tag_id", "i64", false⟩, ⟨"photo", "photo", "Vec < u8 >", true⟩]
  accessors := [⟨"leg_count", "usize"⟩, ⟨"shout", "String"⟩, ⟨"nickname", "& str"⟩]

def held (p : Pet) : Derive.Instance where
  member
    | "animal" => some (.text p.animal)
    | "color" => some (.text p.color)
    | "age" => some (.integer (.ofUInt8 p.age))
    | "weight" => some (.float ⟨.single, p.weight⟩)
    | "vaccinated" => some (.bool p.vaccinated)
    | "adopted" => some (.timestamp p.adopted)
    | "tag_id" => some (.integer (.ofInt64 p.tagId))
    | _ => none
  result
    | "leg_count" => some (.integer (.ofUInt64 p.legCount))
    | "shout" => some (.text p.shout)
    | "nickname" => some (.text p.nickname)
    | _ => none

def record (p : Pet) : Record :=
  derivation.record Sample.types p.held

def description : Description :=
  derivation.description Sample.types

end Pet

structure Label where
  text : String
  owner : String

namespace Label

def declaration : Derive.Item :=
  ⟨.struct, "Tagged", "<'a>", ["name = \"Label\""],
    [⟨"text", "Cow<'a, str>", []⟩, ⟨"owner", "&'a str", []⟩]⟩

def derivation : Derive.Derivation where
  targetName := "Label"
  fields := [⟨"text", "text", "Cow < 'a , str >", false⟩, ⟨"owner", "owner", "& 'a str", false⟩]
  accessors := []

def held (l : Label) : Derive.Instance where
  member
    | "text" => some (.text l.text)
    | "owner" => some (.text l.owner)
    | _ => none
  result _ := none

def record (l : Label) : Record :=
  derivation.record Sample.types l.held

def description : Description :=
  derivation.description Sample.types

end Label

end RecordQuery
