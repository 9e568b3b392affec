/-!
Bytes as text. Reading UTF-8 stops at the first byte that cannot be part of it
and says which bytes are at fault and why; line ends of every style are then
read as line feeds.
-/

namespace ShadowLint.Text

inductive Encoding where
  | utf8
  | utf8Signature
  | latin1
  | ascii
  deriving DecidableEq, Repr

namespace Encoding

/-- Spellings under which an encoding is known, in lower case and with every run
of other characters than letters, digits and points read as one underscore. -/
def spellings : Encoding → List String
  | utf8 => ["utf_8", "utf8", "u8", "utf", "cp65001", "utf8_ucs2", "utf8_ucs4"]
  | utf8Signature => ["utf_8_sig"]
  | latin1 => ["latin_1", "latin1", "latin", "l1", "8859", "cp819", "csisolatin1",
      "ibm819", "iso8859", "iso8859_1", "iso_8859_1", "iso_8859_1_1987", "iso_ir_100"]
  | ascii => ["ascii", "646", "ansi_x3.4_1968", "ansi_x3_4_1968", "ansi_x3.4_1986",
      "cp367", "csascii", "ibm367", "iso646_us", "iso_646.irv_1991", "iso_ir_6", "us",
      "us_ascii"]

private def foldSpelling : List Char → Bool → List Char
  | [], _ => []
  | char :: rest, gap =>
    if char.isAlphanum || char = '.' then
      (if gap then ['_'] else []) ++ char.toLower :: foldSpelling rest false
    else foldSpelling rest true

private def normalSpelling (name : String) : String :=
  String.ofList (foldSpelling (name.toList.dropWhile fun char =>
    !(char.isAlphanum || char = '.')) false)

/-- The encoding known under the name; the local one is UTF-8. -/
def ofName? (name : String) : Option Encoding :=
  if name = "locale" then some utf8
  else [utf8, utf8Signature, latin1, ascii].find? fun encoding =>
    encoding.spellings.contains (normalSpelling name)

end Encoding

inductive DecodingCause where
  | invalidStart
  | invalidContinuation
  | endsEarly
  | notAscii
  deriving DecidableEq, Repr

def DecodingCause.reason : DecodingCause → String
  | invalidStart => "invalid start byte"
  | invalidContinuation => "invalid continuation byte"
  | endsEarly => "unexpected end of data"
  | notAscii => "ordinal not in range(128)"

/-- The bytes at fault: where they start, how many they are, and the first. -/
structure DecodingFault where
  cause : DecodingCause
  start : Nat
  count : Nat
  first : UInt8
  deriving DecidableEq, Repr

private def isContinuation (byte : UInt8) : Bool := 0x80 ≤ byte && byte ≤ 0xBF

private def payload (byte : UInt8) : Nat := byte.toNat % 64

/-- What stands at the front of nonempty bytes: a character and its length, or a
cause and the number of bytes at fault. -/
def utf8Front (first : UInt8) (rest : List UInt8) :
    Except (DecodingCause × Nat) (Char × Nat) :=
  if first < 0x80 then .ok (Char.ofNat first.toNat, 1)
  else if first < 0xC2 || 0xF4 < first then .error (.invalidStart, 1)
  else if first < 0xE0 then
    match rest with
    | [] => .error (.endsEarly, 1)
    | second :: _ =>
      if isContinuation second then
        .ok (Char.ofNat (first.toNat % 32 * 64 + payload second), 2)
      else .error (.invalidContinuation, 1)
  else if first < 0xF0 then
    match rest with
    | [] => .error (.endsEarly, 1)
    | second :: rest =>
      if !isContinuation second || (first = 0xE0 && second < 0xA0) ||
          (first = 0xED && 0xA0 ≤ second) then
        .error (.invalidContinuation, 1)
      else match rest with
        | [] => .error (.endsEarly, 2)
        | third :: _ =>
          if isContinuation third then
            .ok (Char.ofNat ((first.toNat % 16 * 64 + payload second) * 64 + payload third), 3)
          else .error (.invalidContinuation, 2)
  else
    match rest with
    | [] => .error (.endsEarly, 1)
    | second :: rest =>
      if !isContinuation second || (first = 0xF0 && second < 0x90) ||
          (first = 0xF4 && 0x90 ≤ second) then
        .error (.invalidContinuation, 1)
      else match rest with
        | [] => .error (.endsEarly, 2)
        | third :: rest =>
          if !isContinuation third then .error (.invalidContinuation, 2)
          else match rest with
            | [] => .error (.endsEarly, 3)
            | fourth :: _ =>
              if isContinuation fourth then
                .ok (Char.ofNat
                  (((first.toNat % 8 * 64 + payload second) * 64 + payload third) * 64
                    + payload fourth), 4)
              else .error (.invalidContinuation, 3)

private def utf8From (offset : Nat) (chars : List Char) (bytes : List UInt8) :
    Except DecodingFault (List Char) :=
  match bytes with
  | [] => .ok chars.reverse
  | first :: rest =>
    match utf8Front first rest with
    | .error (cause, count) => .error ⟨cause, offset, count, first⟩
    | .ok (char, length) =>
      utf8From (offset + length) (char :: chars) (rest.drop (length - 1))
termination_by bytes.length

private def asciiFrom (offset : Nat) (chars : List Char) (bytes : List UInt8) :
    Except DecodingFault (List Char) :=
  match bytes with
  | [] => .ok chars.reverse
  | first :: rest =>
    if first < 0x80 then asciiFrom (offset + 1) (Char.ofNat first.toNat :: chars) rest
    else .error ⟨.notAscii, offset, 1, first⟩

private def byteOrderMark : List UInt8 := [0xEF, 0xBB, 0xBF]

/-- The characters that the bytes stand for. With a signature, bytes that end
inside the byte order mark stand for no characters. -/
def Encoding.decode (encoding : Encoding) (bytes : List UInt8) :
    Except DecodingFault (List Char) :=
  match encoding with
  | utf8 => utf8From 0 [] bytes
  | utf8Signature =>
    if bytes.length < 3 && bytes.isPrefixOf byteOrderMark then .ok []
    else if byteOrderMark.isPrefixOf bytes then utf8From 0 [] (bytes.drop 3)
    else utf8From 0 [] bytes
  | latin1 => .ok (bytes.map fun byte => Char.ofNat byte.toNat)
  | ascii => asciiFrom 0 [] bytes

private def unifyFrom (done : List Char) : List Char → List Char
  | [] => done.reverse
  | '\r' :: '\n' :: rest => unifyFrom ('\n' :: done) rest
  | char :: rest => unifyFrom ((if char = '\r' then '\n' else char) :: done) rest

/-- Reads a carriage return, alone or before a line feed, as a line feed. -/
def unifyLineEnds (chars : List Char) : List Char := unifyFrom [] chars

example : (Encoding.utf8.decode [0xC3, 0xA9]).toOption = some ['é'] := by decide +kernel
example : unifyLineEnds "a\r\nb\rc".toList = "a\nb\nc".toList := by decide

end ShadowLint.Text
