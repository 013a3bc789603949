import Mathlib.Data.List.TakeWhile
import PrismaEsdl.Proofs.Text.Digits
import PrismaEsdl.Yaml.Lexer

/-!
Where cursors stand after some code points.

A cursor goes one code point of the text at a time, so what follows it is known from the number of
code points (`rest_advance`), and it stays on its line as long as no line ends (`line_advance`).
Between tokens the spaces and line feeds are skipped (`skipLines_eq`).
-/

namespace PrismaEsdl.Yaml

namespace Cursor

theorem rest_next (c : Cursor) : c.next.rest = c.rest.tail := by
  unfold next
  split
  next same => simp [same]
  next same => simp [same]
  next same =>
    rw [same]
    split
    · rfl
    · split <;> rfl

theorem index_next {c : Cursor} (more : c.rest ≠ []) : c.next.index = c.index + 1 := by
  unfold next
  split
  next same => exact absurd same more
  next => rfl
  next =>
    split
    · rfl
    · split <;> rfl

theorem line_next {c : Cursor} (same : ∀ p ∈ c.rest.head?, isBreak p = false) :
    c.next.line = c.line := by
  unfold next
  split
  next => rfl
  next => rfl
  next start =>
    rw [same _ (by rw [start]; rfl), if_neg (by simp)]
    split <;> rfl

theorem rest_advance (n : Nat) (c : Cursor) : (c.advance n).rest = c.rest.drop n := by
  induction n generalizing c with
  | zero => rfl
  | succ n ih => rw [advance, ih, rest_next, List.drop_tail]

theorem index_advance {n : Nat} {c : Cursor} (inside : n ≤ c.rest.length) :
    (c.advance n).index = c.index + n := by
  induction n generalizing c with
  | zero => rfl
  | succ n ih =>
    have more : c.rest ≠ [] := by
      rintro none
      simp [none] at inside
    rw [advance, ih (by rw [rest_next, List.length_tail]; omega), index_next more]
    omega

/-- A cursor stays on its line as long as no line ends. -/
theorem line_advance {n : Nat} {c : Cursor} (unbroken : ∀ p ∈ c.rest.take n, isBreak p = false) :
    (c.advance n).line = c.line := by
  induction n generalizing c with
  | zero => rfl
  | succ n ih =>
    have first : ∀ p ∈ c.rest.head?, isBreak p = false := fun p same => by
      obtain ⟨rest, start⟩ := List.head?_eq_some_iff.mp same
      exact unbroken p (by rw [start]; exact List.mem_cons_self)
    have others : ∀ p ∈ c.next.rest.take n, isBreak p = false := fun p member => by
      rw [rest_next] at member
      cases start : c.rest with
      | nil => simp [start] at member
      | cons q rest =>
        rw [start] at member
        exact unbroken p (by rw [start]; exact List.mem_cons_of_mem _ member)
    rw [advance, ih others, line_next first]

theorem advance_add (m n : Nat) (c : Cursor) : c.advance (m + n) = (c.advance m).advance n := by
  induction m generalizing c with
  | zero => rw [Nat.zero_add]; rfl
  | succ m ih => rw [Nat.succ_add, advance, ih, advance]

theorem rest_advance_append {c : Cursor} {t rest : Text} (start : c.rest = t ++ rest) :
    (c.advance t.length).rest = rest := by
  rw [rest_advance, start, List.drop_left]

theorem rest_skipWhile (kind : CodePoint → Bool) (c : Cursor) :
    (c.skipWhile kind).rest = c.rest.dropWhile kind :=
  rest_advance_append List.takeWhile_append_dropWhile.symm

theorem skipSpaces_eq_self {c : Cursor} (solid : ∀ p ∈ c.rest.head?, p ≠ .char ' ') :
    c.skipSpaces = c := by
  have none : c.rest.takeWhile (· == .char ' ') = [] := by
    cases start : c.rest with
    | nil => rfl
    | cons p rest => simp [solid p (by rw [start]; rfl)]
  rw [skipSpaces, skipWhile, takeWhile, none]
  rfl

theorem skipComment_eq_self {c : Cursor} (solid : ∀ p ∈ c.rest.head?, p ≠ .char '#') :
    c.skipComment = c := by
  rw [skipComment, if_neg]
  cases start : c.rest with
  | nil => simp [startsWith]
  | cons p rest => simpa [startsWith] using solid p (by rw [start]; rfl)

theorem isBreak_of_separator {p : CodePoint} (separator : p.isAmong "\u2028\u2029" = true) :
    isBreak p = true :=
  CodePoint.of_isAmong isBreak separator (by decide)

theorem lineBreak?_eq_none {c : Cursor} (solid : ∀ p ∈ c.rest.head?, isBreak p = false) :
    c.lineBreak? = none := by
  unfold lineBreak?
  split
  next start =>
    have := solid (.char '\r') (by rw [start]; rfl)
    cases this
  next p _ _ start =>
    have unbroken := solid p (by rw [start]; rfl)
    have unseparated : p.isAmong "\u2028\u2029" = false := by
      rw [Bool.eq_false_iff]
      intro separator
      rw [isBreak_of_separator separator] at unbroken
      cases unbroken
    rw [unseparated, unbroken]
    rfl
  next => rfl

theorem lineBreak?_of_feed {c : Cursor} {rest : Text} (start : c.rest = .char '\n' :: rest) :
    c.lineBreak? = some (.char '\n', c.next) := by
  unfold lineBreak?
  rw [start]
  rfl

end Cursor

/-! ### Gaps between tokens -/

/-- Whether a code point is skipped between tokens. -/
def isGap (p : CodePoint) : Bool := p == .char ' ' || p == .char '\n'

/-- A text without the spaces and line feeds at its front. -/
def skipped (t : Text) : Text := t.dropWhile isGap

theorem skipped_append {gap t : Text} (blank : ∀ p ∈ gap, isGap p = true) :
    skipped (gap ++ t) = skipped t :=
  List.dropWhile_append_of_pos blank

theorem isGap_head_skipped {t : Text} : ∀ p ∈ (skipped t).head?, isGap p = false := by
  intro p first
  have := List.head?_dropWhile_not isGap t
  rw [skipped] at first
  rw [first] at this
  simpa using this

theorem skipped_eq_self {t : Text} (solid : ∀ p ∈ t.head?, isGap p = false) : skipped t = t := by
  cases t with
  | nil => rfl
  | cons p rest => rw [skipped, List.dropWhile_cons_of_neg (by simp [solid p rfl])]

@[simp] theorem skipped_skipped (t : Text) : skipped (skipped t) = skipped t :=
  skipped_eq_self isGap_head_skipped

theorem skipped_dropWhile (t : Text) : skipped (t.dropWhile (· == .char ' ')) = skipped t := by
  conv_rhs => rw [← List.takeWhile_append_dropWhile (p := (· == .char ' ')) (l := t)]
  refine (skipped_append fun p member => ?_).symm
  have : p = .char ' ' := by simpa using List.mem_takeWhile_imp member
  exact this ▸ rfl

/-- Whether a text starts, after the gap, with something that is passed over nowhere: no end of a
line, no comment and no byte order mark. -/
def StartsSolid (t : Text) : Prop :=
  ∀ p ∈ (skipped t).head?, isBreak p = false ∧ p ≠ .char '#' ∧ p ≠ Cursor.byteOrderMark

/-- Between tokens exactly the gap is skipped. -/
theorem rest_skipLines {fuel : Nat} {c : Cursor} (enough : c.rest.length < fuel)
    (solid : StartsSolid c.rest) : (Lexer.skipLines fuel c).1.rest = skipped c.rest := by
  induction fuel generalizing c with
  | zero => omega
  | succ fuel ih =>
    have spaces := c.rest_skipWhile (· == .char ' ')
    have sameGap : skipped c.skipSpaces.rest = skipped c.rest := by
      rw [Cursor.skipSpaces, spaces, skipped_dropWhile]
    have shorter : c.skipSpaces.rest.length ≤ c.rest.length := by
      rw [Cursor.skipSpaces, spaces]
      exact (List.dropWhile_suffix _).length_le
    have noSpace : ∀ p ∈ c.skipSpaces.rest.head?, p ≠ .char ' ' := by
      intro p first
      rw [Cursor.skipSpaces, spaces] at first
      have := List.head?_dropWhile_not (· == CodePoint.char ' ') c.rest
      rw [first] at this
      simpa using this
    unfold StartsSolid at solid
    rw [Lexer.skipLines]
    rw [← sameGap] at solid ⊢
    generalize c.skipSpaces = c at *
    rcases start : c.rest with - | ⟨p, rest⟩
    · have comment : c.skipComment = c := c.skipComment_eq_self (by simp [start])
      have broken : c.lineBreak? = none := c.lineBreak?_eq_none (by simp [start])
      simp only [comment, broken, start]
      rfl
    · by_cases feed : p = .char '\n'
      · subst feed
        have comment : c.skipComment = c := c.skipComment_eq_self (by simp [start])
        simp only [comment, Cursor.lineBreak?_of_feed start]
        have next : c.next.rest = rest := by rw [Cursor.rest_next, start, List.tail_cons]
        have skip : skipped (.char '\n' :: rest) = skipped rest := rfl
        rw [start] at shorter
        rw [start, skip] at solid
        rw [skip, ih (by rw [next]; simp at shorter; omega) (by rwa [next]), next]
      · have here : skipped (p :: rest) = p :: rest := by
          refine skipped_eq_self fun q same => ?_
          cases same
          simp [isGap, feed, noSpace p (by rw [start]; rfl)]
        rw [start, here] at solid
        obtain ⟨unbroken, noComment, -⟩ := solid p rfl
        have comment : c.skipComment = c := c.skipComment_eq_self (by simpa [start] using noComment)
        have broken : c.lineBreak? = none := c.lineBreak?_eq_none (by simpa [start] using unbroken)
        simp only [comment, broken, start, here]

/-- Where something solid follows at once, nothing is skipped. -/
theorem skipLines_eq_self {fuel : Nat} {c : Cursor} (solid : ∀ p ∈ c.rest.head?,
    p ≠ .char ' ' ∧ p ≠ .char '#' ∧ isBreak p = false) : Lexer.skipLines fuel c = (c, false) := by
  cases fuel with
  | zero => rfl
  | succ fuel =>
    have comment : c.skipComment = c := c.skipComment_eq_self fun p first => (solid p first).2.1
    have broken : c.lineBreak? = none := c.lineBreak?_eq_none fun p first => (solid p first).2.2
    rw [Lexer.skipLines, Cursor.skipSpaces_eq_self fun p first => (solid p first).1]
    simp only [comment, broken]

end PrismaEsdl.Yaml
