import HandlerRecognition.Text.Hex

/-!
# Metadata tokens

A token is a 32-bit word. Its high byte names a metadata table and its low
twenty-four bits are the row in that table. A handler body refers to methods,
fields and types by tokens only, and the table tells which of these a token
refers to. The tables of the four kinds are different, so a token refers to at
most one kind of record.
-/

namespace HandlerRecognition

/-- A reference to a row of a metadata table. -/
structure Token where
  value : UInt32
  deriving DecidableEq

namespace Token

/-- The table of references to types of other modules. -/
def typeRefTable : UInt8 := 0x01

def typeDefTable : UInt8 := 0x02

def fieldTable : UInt8 := 0x04

def methodTable : UInt8 := 0x06

/-- The table of references to members of other modules. -/
def memberTable : UInt8 := 0x0A

/-- The table of constructed types. -/
def typeSpecTable : UInt8 := 0x1B

def methodSpecTable : UInt8 := 0x2B

/-- The table byte of references to literal strings. -/
def userStringTable : UInt8 := 0x70

/-- The number of rows of a table, which is also the weight of the table byte in
a token. -/
def rowLimit : UInt32 := 0x01000000

/-- The token of a row in a table. Only the low twenty-four bits of the row are
used. -/
def ofParts (table : UInt8) (row : UInt32) : Token :=
  ⟨table.toUInt32 * rowLimit + row % rowLimit⟩

def table (t : Token) : UInt8 :=
  (t.value / rowLimit).toUInt8

def row (t : Token) : UInt32 :=
  t.value % rowLimit

/-- Whether this is the token that refers to nothing. -/
def isNull (t : Token) : Bool :=
  t.value == 0

def isMethod (t : Token) : Bool :=
  t.table == methodTable

/-- Whether the token refers to a member of another module. -/
def isMember (t : Token) : Bool :=
  t.table == memberTable

def isField (t : Token) : Bool :=
  t.table == fieldTable

/-- Whether the token refers to a type, defined here or elsewhere or
constructed. -/
def isType (t : Token) : Bool :=
  t.table == typeDefTable || t.table == typeRefTable || t.table == typeSpecTable

/-- The word in base sixteen, always with eight digits. -/
def text (t : Token) : String :=
  "0x" ++ Text.hex 8 t.value.toNat

def description (t : Token) : String :=
  "Token(" ++ t.text ++ ", table: 0x" ++ Text.hex 2 t.table.toNat ++
    ", row: " ++ toString t.row.toNat ++ ")"

theorem ofParts_table_row (t : Token) : ofParts t.table t.row = t := by
  obtain ⟨v⟩ := t
  have := v.toNat_lt
  simp only [ofParts, table, row, Token.mk.injEq]
  apply UInt32.toNat_inj.mp
  simp [rowLimit]
  omega

@[simp] theorem table_ofParts (b : UInt8) (r : UInt32) :
    (ofParts b r).table = b := by
  apply UInt8.toNat_inj.mp
  have := b.toNat_lt
  have := r.toNat_lt
  simp [ofParts, table, rowLimit]
  omega

@[simp] theorem row_ofParts (b : UInt8) (r : UInt32) :
    (ofParts b r).row = r % rowLimit := by
  apply UInt32.toNat_inj.mp
  simp [ofParts, row, rowLimit]

end Token

end HandlerRecognition
