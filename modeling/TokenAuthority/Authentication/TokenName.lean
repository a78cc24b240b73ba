/-
# The name under which a token is stored

A bearer token that starts with `sha256~` is not stored itself: its object is named by the hash of
what follows. Any other token is the name of its object.
-/

import TokenAuthority.Digest.Base64Url
import TokenAuthority.Digest.Sha256
import TokenAuthority.Http.Header

namespace TokenAuthority
namespace TokenName

/-- How tokens begin that are stored by their hash. -/
def mark : List Char := ['s', 'h', 'a', '2', '5', '6', '~']

/-- The text of a secret's hash. -/
def hash (secret : List Char) : List Char :=
  Digest.Base64Url.encode (Digest.sha256 (Http.textBytes (String.ofList secret))).toList

/-- The name of the object behind a bearer token. -/
def ofToken (token : String) : String :=
  match mark.isPrefixOf? token.toList with
  | some secret => String.ofList (mark ++ hash secret)
  | none => token

end TokenName
end TokenAuthority
