import HandlerRecognition.Opcode.Basic

/-!
# The byte encoding of opcodes

Every opcode is written as one byte, or as the byte `0xFE` followed by a second
one. `Opcode.encode` gives these bytes. `Opcode.decode?` reads one opcode off
the front of a byte string and says how many bytes it took; it fails on the
empty string, on `0xFE` with nothing behind it, and on a code that is not
assigned.
-/

namespace HandlerRecognition

namespace Opcode

/-- The byte in front of every two-byte opcode. -/
def extension : UInt8 := 0xFE

/-- The opcode byte, which for a two-byte opcode is the second one. -/
def code : Opcode → UInt8
  | .nop => 0x00
  | .breakpoint => 0x01
  | .ldarg0 => 0x02
  | .ldarg1 => 0x03
  | .ldarg2 => 0x04
  | .ldarg3 => 0x05
  | .ldloc0 => 0x06
  | .ldloc1 => 0x07
  | .ldloc2 => 0x08
  | .ldloc3 => 0x09
  | .stloc0 => 0x0A
  | .stloc1 => 0x0B
  | .stloc2 => 0x0C
  | .stloc3 => 0x0D
  | .ldargS => 0x0E
  | .ldargaS => 0x0F
  | .stargS => 0x10
  | .ldlocS => 0x11
  | .ldlocaS => 0x12
  | .stlocS => 0x13
  | .ldnull => 0x14
  | .ldcI4M1 => 0x15
  | .ldcI40 => 0x16
  | .ldcI41 => 0x17
  | .ldcI42 => 0x18
  | .ldcI43 => 0x19
  | .ldcI44 => 0x1A
  | .ldcI45 => 0x1B
  | .ldcI46 => 0x1C
  | .ldcI47 => 0x1D
  | .ldcI48 => 0x1E
  | .ldcI4S => 0x1F
  | .ldcI4 => 0x20
  | .ldcI8 => 0x21
  | .ldcR4 => 0x22
  | .ldcR8 => 0x23
  | .dup => 0x25
  | .pop => 0x26
  | .jmp => 0x27
  | .call => 0x28
  | .calli => 0x29
  | .ret => 0x2A
  | .brS => 0x2B
  | .brfalseS => 0x2C
  | .brtrueS => 0x2D
  | .beqS => 0x2E
  | .bgeS => 0x2F
  | .bgtS => 0x30
  | .bleS => 0x31
  | .bltS => 0x32
  | .bneUnS => 0x33
  | .bgeUnS => 0x34
  | .bgtUnS => 0x35
  | .bleUnS => 0x36
  | .bltUnS => 0x37
  | .br => 0x38
  | .brfalse => 0x39
  | .brtrue => 0x3A
  | .beq => 0x3B
  | .bge => 0x3C
  | .bgt => 0x3D
  | .ble => 0x3E
  | .blt => 0x3F
  | .bneUn => 0x40
  | .bgeUn => 0x41
  | .bgtUn => 0x42
  | .bleUn => 0x43
  | .bltUn => 0x44
  | .switch => 0x45
  | .ldindI1 => 0x46
  | .ldindU1 => 0x47
  | .ldindI2 => 0x48
  | .ldindU2 => 0x49
  | .ldindI4 => 0x4A
  | .ldindU4 => 0x4B
  | .ldindI8 => 0x4C
  | .ldindI => 0x4D
  | .ldindR4 => 0x4E
  | .ldindR8 => 0x4F
  | .ldindRef => 0x50
  | .stindRef => 0x51
  | .stindI1 => 0x52
  | .stindI2 => 0x53
  | .stindI4 => 0x54
  | .stindI8 => 0x55
  | .stindR4 => 0x56
  | .stindR8 => 0x57
  | .add => 0x58
  | .sub => 0x59
  | .mul => 0x5A
  | .div => 0x5B
  | .divUn => 0x5C
  | .rem => 0x5D
  | .remUn => 0x5E
  | .and => 0x5F
  | .or => 0x60
  | .xor => 0x61
  | .shl => 0x62
  | .shr => 0x63
  | .shrUn => 0x64
  | .neg => 0x65
  | .not => 0x66
  | .convI1 => 0x67
  | .convI2 => 0x68
  | .convI4 => 0x69
  | .convI8 => 0x6A
  | .convR4 => 0x6B
  | .convR8 => 0x6C
  | .convU4 => 0x6D
  | .convU8 => 0x6E
  | .callvirt => 0x6F
  | .cpobj => 0x70
  | .ldobj => 0x71
  | .ldstr => 0x72
  | .newobj => 0x73
  | .castclass => 0x74
  | .isinst => 0x75
  | .convRUn => 0x76
  | .unbox => 0x79
  | .throw => 0x7A
  | .ldfld => 0x7B
  | .ldflda => 0x7C
  | .stfld => 0x7D
  | .ldsfld => 0x7E
  | .ldsflda => 0x7F
  | .stsfld => 0x80
  | .stobj => 0x81
  | .convOvfI1Un => 0x82
  | .convOvfI2Un => 0x83
  | .convOvfI4Un => 0x84
  | .convOvfI8Un => 0x85
  | .convOvfU1Un => 0x86
  | .convOvfU2Un => 0x87
  | .convOvfU4Un => 0x88
  | .convOvfU8Un => 0x89
  | .convOvfIUn => 0x8A
  | .convOvfUUn => 0x8B
  | .box => 0x8C
  | .newarr => 0x8D
  | .ldlen => 0x8E
  | .ldelema => 0x8F
  | .ldelemI1 => 0x90
  | .ldelemU1 => 0x91
  | .ldelemI2 => 0x92
  | .ldelemU2 => 0x93
  | .ldelemI4 => 0x94
  | .ldelemU4 => 0x95
  | .ldelemI8 => 0x96
  | .ldelemI => 0x97
  | .ldelemR4 => 0x98
  | .ldelemR8 => 0x99
  | .ldelemRef => 0x9A
  | .stelemI => 0x9B
  | .stelemI1 => 0x9C
  | .stelemI2 => 0x9D
  | .stelemI4 => 0x9E
  | .stelemI8 => 0x9F
  | .stelemR4 => 0xA0
  | .stelemR8 => 0xA1
  | .stelemRef => 0xA2
  | .ldelem => 0xA3
  | .stelem => 0xA4
  | .unboxAny => 0xA5
  | .convOvfI1 => 0xB3
  | .convOvfU1 => 0xB4
  | .convOvfI2 => 0xB5
  | .convOvfU2 => 0xB6
  | .convOvfI4 => 0xB7
  | .convOvfU4 => 0xB8
  | .convOvfI8 => 0xB9
  | .convOvfU8 => 0xBA
  | .refanyval => 0xC2
  | .ckfinite => 0xC3
  | .mkrefany => 0xC6
  | .ldtoken => 0xD0
  | .convU2 => 0xD1
  | .convU1 => 0xD2
  | .convI => 0xD3
  | .convOvfI => 0xD4
  | .convOvfU => 0xD5
  | .addOvf => 0xD6
  | .addOvfUn => 0xD7
  | .mulOvf => 0xD8
  | .mulOvfUn => 0xD9
  | .subOvf => 0xDA
  | .subOvfUn => 0xDB
  | .endfinally => 0xDC
  | .leave => 0xDD
  | .leaveS => 0xDE
  | .stindI => 0xDF
  | .convU => 0xE0
  | .arglist => 0x00
  | .ceq => 0x01
  | .cgt => 0x02
  | .cgtUn => 0x03
  | .clt => 0x04
  | .cltUn => 0x05
  | .ldftn => 0x06
  | .ldvirtftn => 0x07
  | .ldarg => 0x09
  | .ldarga => 0x0A
  | .starg => 0x0B
  | .ldloc => 0x0C
  | .ldloca => 0x0D
  | .stloc => 0x0E
  | .localloc => 0x0F
  | .endfilter => 0x11
  | .unaligned => 0x12
  | .volatile => 0x13
  | .tail => 0x14
  | .initobj => 0x15
  | .constrained => 0x16
  | .cpblk => 0x17
  | .initblk => 0x18
  | .rethrow => 0x1A
  | .sizeof => 0x1C
  | .refanytype => 0x1D
  | .readonly => 0x1E

/-- Whether the opcode is written behind the byte `extension`. -/
def isExtended : Opcode → Bool
  | .arglist | .ceq | .cgt | .cgtUn | .clt | .cltUn | .ldftn
  | .ldvirtftn | .ldarg | .ldarga | .starg | .ldloc | .ldloca | .stloc
  | .localloc | .endfilter | .unaligned | .volatile | .tail | .initobj
  | .constrained | .cpblk | .initblk | .rethrow | .sizeof | .refanytype
  | .readonly => true
  | _ => false

/-- The byte in front of the opcode byte, zero where there is none. -/
def lead (o : Opcode) : UInt8 :=
  if o.isExtended then extension else 0

/-- The number of bytes of the encoding, operands not counted. -/
def size (o : Opcode) : Nat :=
  if o.isExtended then 2 else 1

def encode (o : Opcode) : List UInt8 :=
  if o.isExtended then [extension, o.code] else [o.code]

@[simp] theorem length_encode (o : Opcode) : o.encode.length = o.size := by
  unfold encode size
  split <;> rfl

/-- The opcode with the given leading byte and opcode byte, where a leading zero
means that there is no leading byte. -/
def ofBytes? (lead code : UInt8) : Option Opcode :=
  all.find? fun o => o.lead == lead && o.code == code

/-- The opcode at the front of a byte string, with its size. -/
def decode? : List UInt8 → Option (Opcode × Nat)
  | [] => none
  | first :: rest =>
    if first = extension then
      match rest with
      | [] => none
      | second :: _ => (ofBytes? extension second).map (·, 2)
    else
      (ofBytes? 0 first).map (·, 1)

@[simp] theorem decode?_nil : decode? [] = none := rfl

end Opcode

end HandlerRecognition
