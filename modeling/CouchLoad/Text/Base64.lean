/-!
# Base64

Three bytes become four characters of the standard alphabet; a shorter last group is padded.
-/

namespace CouchLoad.Text

/-- The standard alphabet, in the order of the values 0 to 63. -/
def base64Alphabet : List Char :=
  "ABCDEFGHIJKLMNOPQRSTUVWXYZabcdefghijklmnopqrstuvwxyz0123456789+/".toList

/-- The character for a value below 64. -/
def base64Char (value : Nat) : Char :=
  base64Alphabet.getD value '='

/-- The base64 form of a list of bytes. -/
def base64Encode : List UInt8 → List Char
  | [] => []
  | [a] =>
    let n := a.toNat
    [base64Char (n / 4), base64Char (n % 4 * 16), '=', '=']
  | [a, b] =>
    let n := a.toNat * 256 + b.toNat
    [base64Char (n / 1024), base64Char (n / 16 % 64), base64Char (n % 16 * 4), '=']
  | a :: b :: c :: rest =>
    let n := (a.toNat * 256 + b.toNat) * 256 + c.toNat
    base64Char (n / 262144) :: base64Char (n / 4096 % 64) :: base64Char (n / 64 % 64) ::
      base64Char (n % 64) :: base64Encode rest

end CouchLoad.Text
