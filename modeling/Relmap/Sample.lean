import Relmap.QuerySet

/-! Four small tables with their entities, in the form in which the generator writes them for a
schema of a user, an item and two tables whose names are also names of types. -/

namespace Relmap.Sample

structure User where
  id : Option Int64
  name : String
  age : Option Int64

structure Item where
  id : Int64
  type : String
  price : Option Binary64
  image : Option Bytes
  extra : Option String

structure Result where
  code : Int64
  detail : Option String

structure Label where
  value : Option String

def user : Entity User where
  typeId := "User"
  read row := do
    let id ← row.optional "id" .long
    let name ← row.required "name" .text
    let age ← row.optional "age" .long
    return ⟨id, name, age⟩

def item : Entity Item where
  typeId := "Item"
  read row := do
    let id ← row.required "id" .long
    let type ← row.required "type" .text
    let price ← row.optional "price" .double
    let image ← row.optional "image" .bytes
    let extra ← row.optional "extra" .text
    return ⟨id, type, price, image, extra⟩

def result : Entity Result where
  typeId := "Result"
  read row := do
    let code ← row.required "code" .long
    let detail ← row.optional "detail" .text
    return ⟨code, detail⟩

def label : Entity Label where
  typeId := "String"
  read row := do return ⟨← row.optional "value" .text⟩

def itemTable : Table where
  name := "item"
  typeId := "Item"
  columns := [⟨"id", .integer, false, none, 1, false⟩, ⟨"type", .text, false, none, 0, false⟩,
    ⟨"price", .real, true, none, 0, false⟩, ⟨"image", .blob, true, none, 0, false⟩,
    ⟨"extra", .unknown, true, none, 0, false⟩]

def resultTable : Table where
  name := "result"
  typeId := "Result"
  columns := [⟨"code", .integer, false, none, 0, false⟩, ⟨"detail", .text, true, none, 0, false⟩]

def labelTable : Table where
  name := "string"
  typeId := "String"
  columns := [⟨"value", .text, true, none, 0, false⟩]

def userTable : Table where
  name := "user"
  typeId := "User"
  columns := [⟨"id", .integer, true, none, 1, true⟩, ⟨"name", .text, false, some "'anon'", 0, false⟩,
    ⟨"age", .integer, true, none, 0, false⟩]

/-- Tables by name, as the generator orders them. -/
def tables : Registry := [itemTable, resultTable, labelTable, userTable]

/-- What a program calls once at its start. -/
def init (current : Installation) : Except RegistryError Unit × Installation := current.install tables

end Relmap.Sample
