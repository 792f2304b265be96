import PemBundle.Pem.Block
import PemBundle.Pem.Boundary
import PemBundle.Text.Blank

/-!
# Reading one armored block

Empty lines do not count. After the opening line come header lines, as long as lines hold a colon;
the lines from there to the next closing line are the body in base64.
-/

namespace PemBundle.Pem

/-- Why lines do not hold an armored block. -/
inductive ArmorError
  /-- No opening line, or no closing line after the body. -/
  | noBlock
  /-- A header line holds the byte `byte` outside ASCII at `position`. -/
  | headerByte (byte : UInt8) (position : Nat)
  | body (error : Base64.Error)
  deriving DecidableEq

/-- The wording of an error. -/
def ArmorError.message : ArmorError → String
  | .noBlock =>
      "pem_bytes does not appear to contain PEM-encoded data - no BEGIN/END combination found"
  | .headerByte byte position =>
      "'ascii' codec can't decode byte 0x" ++ String.ofList (Text.hexDigits 2 byte.toNat) ++
        " in position " ++ toString position ++ ": ordinal not in range(128)"
  | .body error => error.message

/-- The byte that parts a header's name from its value. -/
def colon : UInt8 := 0x3a

/-- The name and value on a header line; the value is trimmed. -/
def readHeader (line : Line) : Except ArmorError (String × String) :=
  match line.dropWhile (· < 0x80) with
  | byte :: _ => .error (.headerByte byte (line.takeWhile (· < 0x80)).length)
  | [] =>
      let value := (line.dropWhile (· ≠ colon)).drop 1
      .ok (Text.ofAscii (line.takeWhile (· ≠ colon)),
        String.ofList (Text.trim (Text.ofAscii value).toList))

/-- Reads header lines into `headers` until a line without a colon. -/
def readHeaders (headers : Headers) : List Line → Except ArmorError (Headers × List Line)
  | [] => .ok (headers, [])
  | line :: rest =>
      if line = [] then readHeaders headers rest
      else if colon ∈ line then do
        let (name, value) ← readHeader line
        readHeaders (headers.set name value) rest
      else .ok (headers, line :: rest)

/-- The lines up to the first that closes the body, if there is one. -/
def bodyLines? (ls : List Line) : Option (List Line) :=
  if ls.any closesBody then some (ls.takeWhile (!closesBody ·)) else none

/-- The first armored block in the lines. -/
def unarmor (ls : List Line) : Except ArmorError Block :=
  match ls.dropWhile (openLabel? · |>.isNone) with
  | [] => .error .noBlock
  | first :: rest => do
      let label := (openLabel? first).getD []
      let (headers, rest) ← readHeaders [] rest
      match bodyLines? rest with
      | none => .error .noBlock
      | some body =>
          match Base64.decode body.flatten with
          | .ok der => .ok ⟨Text.ofAscii label, der, headers⟩
          | .error e => .error (.body e)

end PemBundle.Pem
