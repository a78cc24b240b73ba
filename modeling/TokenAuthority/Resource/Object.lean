/-
# Objects of any resource

Admission sees objects of every kind. Of these only access tokens belong to a user.
-/

import TokenAuthority.Resource.AccessToken
import TokenAuthority.Resource.TokenReview
import TokenAuthority.Resource.User

namespace TokenAuthority
namespace Resource

/-- An object of any resource. -/
inductive Object where
  | accessToken (value : AccessToken)
  | user (value : User)
  | tokenReview (value : TokenReview)
deriving DecidableEq, Repr

namespace Object

/-- The name of the object's type, whatever the object says about its kind. -/
def kindName : Object → String
  | accessToken _ => "OAuthAccessToken"
  | user _ => "User"
  | tokenReview _ => "TokenReview"

/-- The object's name. -/
def name : Object → String
  | accessToken t => t.metadata.name
  | user u => u.metadata.name
  | tokenReview r => r.metadata.name

/-- The name of the user to whom the object belongs, for objects that belong to one. -/
def owner? : Object → Option String
  | accessToken t => some t.userName
  | _ => none

/-- The object in JSON. -/
def toJson : Object → Json.Value
  | accessToken t => t.toJson
  | user u => u.toJson
  | tokenReview r => r.toJson

/-- The object written out. -/
def dump : Object → Text.Dump
  | accessToken t => t.dump
  | user u => u.dump
  | tokenReview r => r.dump

end Object
end Resource
end TokenAuthority
