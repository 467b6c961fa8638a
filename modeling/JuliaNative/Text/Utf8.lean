import JuliaNative.Text.Lines
import JuliaNative.Text.Quoted

set_option autoImplicit false

/-! # Decoding text

Files hold bytes; text is read from them as UTF-8. Bytes that are not UTF-8 are refused with the
place and the nature of the first fault. A file that is read line by line hands out the lines before
a fault first, so that a fault in an earlier line is reported before one in the encoding. -/

namespace JuliaNative.Text

/-- What is wrong with a sequence of bytes at the place where decoding stops. -/
inductive DecodeFaultKind
  | invalidStart
  | invalidContinuation
  | unexpectedEnd
deriving DecidableEq, Repr

/-- The first fault in a sequence of bytes: where it starts, how many bytes it spans, and the first
    of these. -/
structure DecodeFault where
  start : Nat
  length : Nat
  byte : UInt8
  kind : DecodeFaultKind
deriving DecidableEq, Repr

/-- The name of a kind of fault in a message. -/
def DecodeFaultKind.description : DecodeFaultKind → String
  | .invalidStart => "invalid start byte"
  | .invalidContinuation => "invalid continuation byte"
  | .unexpectedEnd => "unexpected end of data"

/-- The message for a fault; it shows the byte if the fault spans only one. -/
def DecodeFault.message (fault : DecodeFault) : String :=
  let place :=
    if fault.length = 1 then
      "byte 0x" ++ String.ofList (hexadecimal 2 fault.byte.toNat) ++ " in position "
        ++ toString fault.start
    else
      "bytes in position " ++ toString fault.start ++ "-"
        ++ toString (fault.start + fault.length - 1)
  "'utf-8' codec can't decode " ++ place ++ ": " ++ fault.kind.description

/-- How many bytes must follow a first byte, and the interval in which the next one lies. -/
def followers (lead : UInt8) : Option (Nat × UInt8 × UInt8) :=
  if lead < 0x80 then some (0, 0x80, 0xbf)
  else if lead < 0xc2 then none
  else if lead < 0xe0 then some (1, 0x80, 0xbf)
  else if lead = 0xe0 then some (2, 0xa0, 0xbf)
  else if lead = 0xed then some (2, 0x80, 0x9f)
  else if lead < 0xf0 then some (2, 0x80, 0xbf)
  else if lead = 0xf0 then some (3, 0x90, 0xbf)
  else if lead < 0xf4 then some (3, 0x80, 0xbf)
  else if lead = 0xf4 then some (3, 0x80, 0x8f)
  else none

/-- How many of the `wanted` bytes that must follow are there and in their intervals. -/
def countFollowers : Nat → UInt8 → UInt8 → List UInt8 → Nat
  | 0, _, _, _ => 0
  | _, _, _, [] => 0
  | wanted + 1, low, high, byte :: rest =>
    if low ≤ byte ∧ byte ≤ high then countFollowers wanted 0x80 0xbf rest + 1 else 0

/-- The first fault of a sequence of bytes that starts at the given position. -/
def firstFault (position : Nat) : List UInt8 → DecodeFault
  | [] => ⟨position, 1, 0, .unexpectedEnd⟩
  | lead :: rest =>
    match followers lead with
    | none => ⟨position, 1, lead, .invalidStart⟩
    | some (wanted, low, high) =>
      let present := countFollowers wanted low high rest
      if present = wanted then firstFault (position + wanted + 1) (rest.drop wanted)
      else if present = rest.length then ⟨position, present + 1, lead, .unexpectedEnd⟩
      else ⟨position, present + 1, lead, .invalidContinuation⟩
termination_by bytes => bytes.length
decreasing_by simp only [List.length_drop, List.length_cons]; omega

/-- The text that bytes encode, or their first fault. -/
def decode (bytes : ByteArray) : Except DecodeFault String :=
  match String.fromUTF8? bytes with
  | some text => .ok text
  | none => .error (firstFault 0 bytes.data.toList)

/-- Decoding an encoded text gives the text back. -/
theorem decode_toUTF8 (text : String) : decode text.toUTF8 = .ok text := by
  have h : text.toUTF8.IsValidUTF8 := text.isValidUTF8
  simp only [decode, String.fromUTF8?, h, dif_pos]
  rfl

/-- A text without a carriage return at its very end, which waits there for its line feed. -/
def withoutLastReturn (cs : List Char) : List Char :=
  if cs.getLast? = some '\r' then cs.dropLast else cs

/-- How many bytes of a file are read at once. -/
def blockSize : Nat := 8192

/-- Whether the byte at a position continues a character. -/
def hasFollower (bytes : ByteArray) (position : Nat) : Bool :=
  match bytes.data[position]? with
  | some byte => 0x80 ≤ byte ∧ byte ≤ 0xbf
  | none => false

/-- Where the character starts that holds the byte at a position. -/
def characterStart (bytes : ByteArray) : Nat → Nat
  | 0 => 0
  | position + 1 =>
    if hasFollower bytes (position + 1) then characterStart bytes position else position + 1

/-- The position of the byte that gives a fault away, or the size of the file if only its end does.
    The first two bytes of a surrogate, which is no character, are refused with the third. -/
def DecodeFault.shownAt (fault : DecodeFault) (bytes : ByteArray) : Nat :=
  match fault.kind with
  | .invalidStart => fault.start
  | .invalidContinuation =>
    let next := fault.start + fault.length
    if fault.byte = 0xed ∧ hasFollower bytes next then next + 1 else next
  | .unexpectedEnd => bytes.size

/-- Where the bytes start that are decoded together with those of a fault. A fault shows with the
    first block that holds the byte against the rules, or with the end of the file, and a character
    that is incomplete at the end of a block waits for the next one. -/
def DecodeFault.origin (fault : DecodeFault) (bytes : ByteArray) : Nat :=
  let shown := fault.shownAt bytes
  let block := shown / blockSize * blockSize
  if bytes.size ≤ shown ∨ fault.start ≤ block then fault.start else characterStart bytes block

/-- The lines of a text file, as far as they can be read, and the fault that ends the reading. The
    complete lines before the bytes that are decoded together with those of the fault are readable,
    and the position of the fault counts from the first of these bytes. -/
def fileLines (bytes : ByteArray) : List (List Char) × Option DecodeFault :=
  match decode bytes with
  | .ok text => (splitAfterFeeds (unifyLineEnds text.toList), none)
  | .error fault =>
    let origin := fault.origin bytes
    let text := (decode (bytes.extract 0 origin)).toOption.getD ""
    let lines := splitAfterFeeds (unifyLineEnds (withoutLastReturn text.toList))
    (lines.filter fun line => line.getLast? = some '\n',
      some { fault with start := fault.start - origin })

/-- The lines of an encoded text are its lines, and no fault ends the reading. -/
theorem fileLines_toUTF8 (text : String) :
    fileLines text.toUTF8 = (splitAfterFeeds (unifyLineEnds text.toList), none) := by
  simp only [fileLines, decode_toUTF8]

end JuliaNative.Text
