/-
# Objects survive their text

Access tokens, users and token reviews are read back from their JSON text as they were, so that
writing an object that was read changes nothing (`wire_formats_lossless`). All of their fields are
of a few kinds:

| kind | left out | read as |
| --- | --- | --- |
| text, list of texts | never, or when empty | empty, if it is left out when empty |
| number, flag, structure | never | |
| optional | when missing | missing; an empty text is not missing |
| map | when empty | empty; its entries are written in no particular order |
-/

import TokenAuthority.Proofs.Records
import TokenAuthority.Resource.Object

namespace TokenAuthority
namespace Json

open Text (Glyph)

/-- A string is read back from its bytes. -/
theorem fromUTF8?_toUTF8 (s : String) : String.fromUTF8? s.toUTF8 = some s :=
  dif_pos s.isValidUTF8

/-- What a reader recovers from a value, it reads from the value's text. -/
theorem Reader.Recovers.readText {α : Type} {r : Reader α} {v w : Value} {a : α}
    (h : r.Recovers v a) (reordered : Reordered v w) :
    readText r (Glyph.ofBytes w.render.toUTF8) = .ok a := by
  have text := document_render (reordered.integral h.integral)
  rw [Json.readText, Glyph.ofBytes, fromUTF8?_toUTF8]
  dsimp only
  rw [text]
  dsimp only
  rw [h.reads w reordered]
  rfl

/-- Nothing of a structure is lost in its text, and reading a text and writing what it holds leaves
what it holds as it was. -/
structure Lossless {α : Type} (record : Record α) (toJson : α → Value) : Prop where
  recovers : ∀ a w, Reordered (toJson a) w →
    readText record.read (Glyph.ofBytes w.render.toUTF8) = .ok a
  stable : ∀ body a, readText record.read (Glyph.ofBytes body) = .ok a →
    ∀ w, Reordered (toJson a) w →
      readText record.read (Glyph.ofBytes w.render.toUTF8) =
        readText record.read (Glyph.ofBytes body)

/-- A record that recovers all that is written is lossless. -/
theorem lossless_of_recovers {α : Type} {record : Record α} {toJson : α → Value}
    (h : ∀ a, record.read.Recovers (toJson a) a) : Lossless record toJson where
  recovers a _ reordered := (h a).readText reordered
  stable _ a accepted _ reordered := ((h a).readText reordered).trans accepted.symm

end Json

namespace Resource

open Json

/-! ### Fields -/

/-- A field that is always written is read as what it was written for. -/
theorem recovers_always (name : String) {α : Type} {r : Reader α} {v : Value} {a : α}
    (h : r.Recovers v a) (default : α) :
    (Record.field name r default).Recovers [(name, some v)] a := by
  refine Record.recovers_field name ?_ nofun
  rintro v ⟨⟩
  exact h

/-- A field of text is read as what it was written for. -/
theorem recovers_text (name s default : String) :
    (Record.field name Reader.string default).Recovers [(name, some (.string s))] s :=
  recovers_always name (Reader.recovers_string s) default

/-- A field of text that is left out when it is empty is read as what it was written for. -/
theorem recovers_textUnlessEmpty (name s : String) :
    (Record.field name Reader.string "").Recovers [(name, textUnlessEmpty s)] s := by
  unfold textUnlessEmpty
  split
  · rename_i isEmpty
    exact Record.recovers_field name nofun fun _ => isEmpty
  · exact recovers_text name s ""

/-- A field of texts that is left out when there are none is read as what it was written for. -/
theorem recovers_textsUnlessEmpty (name : String) (items : List String) :
    (Record.field name texts []).Recovers [(name, textsUnlessEmpty items)] items := by
  unfold textsUnlessEmpty
  split
  · rename_i isEmpty
    exact Record.recovers_field name nofun fun _ => List.isEmpty_iff.1 isEmpty
  · exact recovers_always name (Reader.recovers_texts items) []

/-- An optional field is read as what it was written for, if nothing is written as `null`. -/
theorem recovers_optional (name : String) {α : Type} {r : Reader α} {write : α → Value}
    (h : ∀ a, r.Recovers (write a) a) (notNull : ∀ a, write a ≠ .null) (o : Option α) :
    (Record.optional name r).Recovers [(name, o.map write)] o := by
  cases o with
  | none => exact Record.recovers_field name nofun fun _ => rfl
  | some a => exact recovers_always name ((h a).optional (notNull a)) none

/-- An optional field of text is read as what it was written for. -/
theorem recovers_optionalText (name : String) (o : Option String) :
    (Record.optional name Reader.string).Recovers [(name, o.map .string)] o :=
  recovers_optional name Reader.recovers_string nofun o

/-- A timestamp is not written as `null`. -/
theorem timestamp_ne_null (i : Time.Instant) : timestamp i ≠ .null := by
  unfold timestamp
  exact nofun

/-- What else is known of a user is read as what it was written for. -/
theorem recovers_extra (m : KeyedMap (List String)) :
    (Record.field "extra" (Reader.map texts) .empty).Recovers
      [("extra", if m.isEmpty then none
        else some (.object (m.entries.map fun (k, v) => (k, Value.strings v))))] m := by
  split
  · rename_i isEmpty
    exact Record.recovers_field _ nofun fun _ => KeyedMap.ext (List.isEmpty_iff.1 isEmpty)
  · exact recovers_always _ (Reader.recovers_map m) .empty

/-- A number of 64 bits has at most 19 digits. -/
theorem recovers_int64 (n : Int64) : readInt64.Recovers (.integer n.toInt) n := by
  have least := n.le_toInt
  have most := n.toInt_lt
  have short : (Nat.toDigits 10 n.toInt.natAbs).length ≤ 19 :=
    (Nat.length_toDigits_le_iff (by decide) (by decide)).2 (by omega)
  have recovers : Reader.Recovers (Reader.integer (-9223372036854775808) 9223372036854775807)
      (.integer n.toInt) n.toInt :=
    Reader.recovers_integer (by omega) (by omega) (by omega)
  have made := recovers.map Int64.ofInt
  rwa [Int64.ofInt_toInt] at made

/-- A number of 32 bits is read as what it was written for. -/
theorem recovers_int32 (n : Int32) : readInt32.Recovers (.integer n.toInt) n := by
  have least := n.le_toInt
  have most := n.toInt_lt
  have short : (Nat.toDigits 10 n.toInt.natAbs).length ≤ 10 :=
    (Nat.length_toDigits_le_iff (by decide) (by decide)).2 (by omega)
  have recovers : Reader.Recovers (Reader.integer (-2147483648) 2147483647)
      (.integer n.toInt) n.toInt :=
    Reader.recovers_integer (by omega) (by omega) (by omega)
  have made := recovers.map Int32.ofInt
  rwa [Int32.ofInt_toInt] at made

/-! ### Structures -/

/-- Metadata is read as what it was written for. -/
theorem Metadata.recovers (m : Metadata) : Metadata.record.read.Recovers m.toJson m := by
  have fields := recovers_textUnlessEmpty "name" m.name |>.map Metadata.mk
    |>.seq (recovers_optionalText "namespace" m.namespaceName)
    |>.seq (recovers_optionalText "uid" m.uid)
    |>.seq (recovers_optional "creationTimestamp" Reader.recovers_timestamp timestamp_ne_null
      m.created)
  exact fields.read (by simp)

/-- An access token is read as what it was written for. -/
theorem AccessToken.recovers (t : AccessToken) : AccessToken.record.read.Recovers t.toJson t := by
  have fields := recovers_text "apiVersion" t.apiVersion "oauth.openshift.io/v1"
    |>.map AccessToken.mk
    |>.seq (recovers_text "kind" t.kind "OAuthAccessToken")
    |>.seq (recovers_always "metadata" t.metadata.recovers {})
    |>.seq (recovers_text "clientName" t.clientName "")
    |>.seq (recovers_always "expiresIn" (recovers_int64 t.expiresIn) 0)
    |>.seq (recovers_textsUnlessEmpty "scopes" t.scopes)
    |>.seq (recovers_textUnlessEmpty "redirectUri" t.redirectUri)
    |>.seq (recovers_text "userName" t.userName "")
    |>.seq (recovers_text "userUID" t.userUid "")
    |>.seq (recovers_textUnlessEmpty "authorizeToken" t.authorizeToken)
    |>.seq (recovers_textUnlessEmpty "refreshToken" t.refreshToken)
    |>.seq (recovers_always "inactivityTimeoutSeconds" (recovers_int32 t.inactivityTimeout) 0)
  exact fields.read (by simp)

/-- A user is read as what it was written for. -/
theorem User.recovers (u : User) : User.record.read.Recovers u.toJson u := by
  have fields := recovers_text "apiVersion" u.apiVersion "user.openshift.io/v1" |>.map User.mk
    |>.seq (recovers_text "kind" u.kind "User")
    |>.seq (recovers_always "metadata" u.metadata.recovers {})
    |>.seq (recovers_optionalText "fullName" u.fullName)
    |>.seq (recovers_always "identities" (Reader.recovers_texts u.identities) [])
    |>.seq (recovers_always "groups" (Reader.recovers_texts u.groups) [])
  exact fields.read (by simp)

/-- What a review asks for is read as what it was written for. -/
theorem TokenReviewSpec.recovers (s : TokenReviewSpec) :
    TokenReviewSpec.record.read.Recovers s.toJson s := by
  have fields := recovers_text "token" s.token "" |>.map TokenReviewSpec.mk
    |>.seq (recovers_textsUnlessEmpty "audiences" s.audiences)
  exact fields.read (by simp)

/-- The user of a review is read as what it was written for. -/
theorem TokenReviewUser.recovers (u : TokenReviewUser) :
    TokenReviewUser.record.read.Recovers u.toJson u := by
  have fields := Record.recovers_required "username" (Reader.recovers_string u.username)
    |>.map TokenReviewUser.mk
    |>.seq (recovers_textUnlessEmpty "uid" u.uid)
    |>.seq (recovers_textsUnlessEmpty "groups" u.groups)
    |>.seq (recovers_extra u.extra)
  exact fields.read (by simp)

/-- The status of a review is read as what it was written for. -/
theorem TokenReviewStatus.recovers (s : TokenReviewStatus) :
    TokenReviewStatus.record.read.Recovers s.toJson s := by
  have fields := recovers_always "authenticated" (Reader.recovers_bool s.authenticated) false
    |>.map TokenReviewStatus.mk
    |>.seq (recovers_optional "user" TokenReviewUser.recovers nofun s.user)
    |>.seq (recovers_textsUnlessEmpty "audiences" s.audiences)
    |>.seq (recovers_optionalText "error" s.error)
  exact fields.read (by simp)

/-- A review is read as what it was written for. -/
theorem TokenReview.recovers (r : TokenReview) : TokenReview.record.read.Recovers r.toJson r := by
  have fields := recovers_text "apiVersion" r.apiVersion "authentication.k8s.io/v1"
    |>.map TokenReview.mk
    |>.seq (recovers_text "kind" r.kind "TokenReview")
    |>.seq (recovers_always "metadata" r.metadata.recovers {})
    |>.seq (recovers_always "spec" r.spec.recovers {})
    |>.seq (recovers_always "status" r.status.recovers {})
  exact fields.read (by simp)

/-- **The wire format loses nothing:** the text of an access token, a user or a token review is read
as the object that was written, whatever the order of the members, and writing an object that was
read from a text does not change what is read. -/
theorem wire_formats_lossless :
    Lossless AccessToken.record AccessToken.toJson ∧ Lossless User.record User.toJson ∧
      Lossless TokenReview.record TokenReview.toJson :=
  ⟨lossless_of_recovers AccessToken.recovers, lossless_of_recovers User.recovers,
    lossless_of_recovers TokenReview.recovers⟩

end Resource
end TokenAuthority
