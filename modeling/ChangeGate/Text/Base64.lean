/-!
# Bytes in base 64

Three bytes are written as four characters for six bits each. A last group of one or two bytes
is filled up with equals signs.
-/

namespace ChangeGate.Text

/-- The character that stands for six bits. -/
def base64Char (bits : Nat) : Char :=
  if bits < 26 then Char.ofNat ('A'.toNat + bits)
  else if bits < 52 then Char.ofNat ('a'.toNat + (bits - 26))
  else if bits < 62 then Char.ofNat ('0'.toNat + (bits - 52))
  else if bits = 62 then '+'
  else '/'

/-- Bytes in base 64. -/
def base64 : List UInt8 → List Char
  | [] => []
  | [a] =>
      let bits := a.toNat * 0x10
      [base64Char (bits / 64), base64Char (bits % 64), '=', '=']
  | [a, b] =>
      let bits := (a.toNat * 0x100 + b.toNat) * 4
      [base64Char (bits / 4096), base64Char (bits / 64 % 64), base64Char (bits % 64), '=']
  | a :: b :: c :: rest =>
      let bits := (a.toNat * 0x100 + b.toNat) * 0x100 + c.toNat
      [base64Char (bits / 262144), base64Char (bits / 4096 % 64), base64Char (bits / 64 % 64),
        base64Char (bits % 64)] ++ base64 rest

end ChangeGate.Text
