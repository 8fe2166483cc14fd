/-!
# Base 64

The standard alphabet with padding: three bytes make four characters of six bits each, and a last
group of one or two bytes is filled up with the padding sign.

## Main definitions

* `base64`: the text of a string of bytes.
-/

namespace SqlBind.Text

/-- The character that stands for six bits. -/
def base64Char (n : Nat) : Char :=
  if n < 26 then Char.ofNat (n + 65)
  else if n < 52 then Char.ofNat (n - 26 + 97)
  else if n < 62 then Char.ofNat (n - 52 + 48)
  else if n = 62 then '+'
  else '/'

/-- The base-64 text of a string of bytes. -/
def base64 : List UInt8 → List Char
  | [] => []
  | [a] =>
    let n := a.toNat * 16
    [base64Char (n / 64), base64Char (n % 64), '=', '=']
  | [a, b] =>
    let n := (a.toNat * 256 + b.toNat) * 4
    [base64Char (n / 4096), base64Char (n / 64 % 64), base64Char (n % 64), '=']
  | a :: b :: c :: rest =>
    let n := (a.toNat * 256 + b.toNat) * 256 + c.toNat
    base64Char (n / 262144) :: base64Char (n / 4096 % 64) :: base64Char (n / 64 % 64) ::
      base64Char (n % 64) :: base64 rest

example : base64 [77, 97, 110, 77] = ['T', 'W', 'F', 'u', 'T', 'Q', '=', '='] := by decide

end SqlBind.Text
