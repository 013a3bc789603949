import PrismaEsdl.Conversion.Default
import PrismaEsdl.Proofs.Json.Literal
import PrismaEsdl.Proofs.Prisma.Relation

/-!
Defaults of string fields.

A token may be a literal already, or may only look like one: what it means is decided by the
quotation marks around it and by whether it is a literal (`Means`). The expression for it is one
literal, closed by its last mark and by no other, that writes what the token means; a literal of a
text stays as it is, so no text is put in quotation marks twice (`stringLiteral_is_quoted_once`).
-/

namespace PrismaEsdl.Conversion

open Prisma.Relation (insideQuotes?_eq_some_iff insideQuotes?_eq_none_iff)
open Json.Literal (Writes IsSealed decode? encode decode?_eq_some_iff decode?_encode
  writes_encode)

/-- What a token means: a literal its content, a text that is only enclosed in quotation marks what
is between them, and any other text itself. -/
inductive Means (token : Text) : Text → Prop where
  | literal {content : Text} (writes : Writes token content) : Means token content
  | enclosed {inside : Text} (noLiteral : ∀ content, ¬ Writes token content)
      (enclosed : token = .char '"' :: (inside ++ [.char '"'])) : Means token inside
  | bare (notEnclosed : ∀ inside, token ≠ .char '"' :: (inside ++ [.char '"'])) : Means token token

theorem Means.eq_tokenContent {token content : Text} (meaning : Means token content) :
    tokenContent token = content := by
  unfold tokenContent
  cases meaning with
  | literal writes =>
      obtain ⟨inside, enclosed, -⟩ := writes.exists_isSealed
      simp only [insideQuotes?_eq_some_iff.mpr enclosed, decode?_eq_some_iff.mpr writes,
        Option.getD_some]
  | enclosed noLiteral enclosed =>
      have undecoded : decode? token = none := by
        rw [Option.eq_none_iff_forall_ne_some]
        intro content decoded
        exact noLiteral content (decode?_eq_some_iff.mp decoded)
      simp only [insideQuotes?_eq_some_iff.mpr enclosed, undecoded, Option.getD_none]
  | bare notEnclosed =>
      simp only [insideQuotes?_eq_none_iff.mpr notEnclosed]

theorem means_tokenContent (token : Text) : Means token (tokenContent token) := by
  unfold tokenContent
  split
  · rename_i unmarked
    exact .bare (insideQuotes?_eq_none_iff.mp unmarked)
  · rename_i inside marked
    cases decoded : decode? token with
    | none =>
        apply Means.enclosed
        · intro content writes
          rw [decode?_eq_some_iff.mpr writes] at decoded
          cases decoded
        · exact insideQuotes?_eq_some_iff.mp marked
    | some content => exact .literal (decode?_eq_some_iff.mp decoded)

/-- The content of the literal of a text is the text. -/
theorem tokenContent_encode (t : Text) : tokenContent (encode t) = t :=
  (Means.literal (writes_encode t)).eq_tokenContent

/-- The expression for a token is a literal that begins and ends with a quotation mark, has no
control character and no other mark that is not escaped, and is decoded to what the token means. The
literal of a text is its own expression, and so is every expression for a token. -/
theorem stringLiteral_is_quoted_once (token : Text) :
    (∃ inside, stringLiteral token = .char '"' :: (inside ++ [.char '"']) ∧ IsSealed inside) ∧
      (∃ content, Means token content ∧ decode? (stringLiteral token) = some content) ∧
      (∀ content, Means token content ↔ Writes (stringLiteral token) content) ∧
      (∀ t, stringLiteral (encode t) = encode t) ∧
      stringLiteral (stringLiteral token) = stringLiteral token := by
  have writes : Writes (stringLiteral token) (tokenContent token) := writes_encode _
  have decoded : decode? (stringLiteral token) = some (tokenContent token) := decode?_encode _
  have kept : ∀ t, stringLiteral (encode t) = encode t := by
    intro t
    rw [stringLiteral, tokenContent_encode]
  refine ⟨writes.exists_isSealed, ⟨_, means_tokenContent token, decoded⟩, ?_, kept, kept _⟩
  intro content
  constructor
  · intro meaning
    rw [← meaning.eq_tokenContent]
    exact writes
  · intro written
    rw [← decode?_eq_some_iff, decoded] at written
    cases written
    exact means_tokenContent token

/-- A mark inside that is not escaped leaves no literal; the marks around it are taken off. -/
example : stringLiteral "\"5\" pipe\"" = "\"5\\\" pipe\"" := by decide

end PrismaEsdl.Conversion
