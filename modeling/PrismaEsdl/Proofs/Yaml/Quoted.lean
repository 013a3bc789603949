import PrismaEsdl.Proofs.Json.Literal
import PrismaEsdl.Proofs.Yaml.Cursor

/-!
JSON literals as scalars in double quotes.

Every escape of an ASCII literal is one that a scalar in double quotes knows, but each half of a
surrogate pair is an escape of its own there: a literal is read as the units of its text
(`reads_ascii`).
-/

namespace PrismaEsdl

namespace Yaml

theorem isBreak_eq_false {p : CodePoint} (low : 0x20 ≤ p.value) (high : p.value < 0x85) :
    isBreak p = false := by
  rw [Bool.eq_false_iff]
  intro broken
  have outside := CodePoint.of_isAmong (fun p => p.value < 0x20 || 0x85 ≤ p.value) broken
    (by decide)
  simp only [Bool.or_eq_true, decide_eq_true_eq] at outside
  omega

theorem isBlank_eq_false {p : CodePoint} (low : 0x20 < p.value) : isBlank p = false := by
  rw [Bool.eq_false_iff]
  intro blank
  have outside := CodePoint.of_isAmong (fun p => p.value ≤ 0x20) blank (by decide)
  exact absurd (of_decide_eq_true outside) (Nat.not_le_of_lt low)

namespace Quoted

/-- Whether a scalar in double quotes goes on with a text from one place and is closed before
another. -/
def Reads (c : Cursor) (t : Text) (c' : Cursor) : Prop :=
  ∀ fuel, c.rest.length < fuel → content false .double fuel c = .ok (t, c')

section

variable {c c' : Cursor} {t rest : Text}

theorem reads_close (start : c.rest = .char '"' :: rest) : Reads c [] c.next := by
  intro fuel enough
  obtain ⟨fuel, rfl⟩ := Nat.exists_eq_succ_of_ne_zero (by omega : fuel ≠ 0)
  rw [content, start]
  rfl

theorem reads_cons {p : CodePoint} (start : c.rest = p :: rest)
    (solid : isBlank p = false ∧ isBreak p = false) (noEscape : p ≠ .char '\\')
    (noMark : p ≠ .char '"') (later : Reads c.next t c') : Reads c (p :: t) c' := by
  intro fuel enough
  obtain ⟨fuel, rfl⟩ := Nat.exists_eq_succ_of_ne_zero (by omega : fuel ≠ 0)
  have shorter : c.next.rest.length < fuel := by
    rw [Cursor.rest_next, start, List.tail_cons]
    rw [start, List.length_cons] at enough
    omega
  rw [content, start]
  simp only [solid.1, solid.2, noEscape, Quote.mark, noMark, later fuel shorter]
  rfl

theorem reads_escape (meaning : Text) {after : Cursor} (start : c.rest = .char '\\' :: rest)
    (escaped : ∀ fuel, escape false fuel c.next = .ok (meaning, after))
    (shorter : after.rest.length ≤ rest.length) (later : Reads after t c') :
    Reads c (meaning ++ t) c' := by
  intro fuel enough
  obtain ⟨fuel, rfl⟩ := Nat.exists_eq_succ_of_ne_zero (by omega : fuel ≠ 0)
  rw [start, List.length_cons] at enough
  have later := later fuel (by omega)
  have solid : (isBlank (.char '\\') || isBreak (.char '\\')) = false := rfl
  rw [content, start]
  simp only [solid, Bool.false_eq_true, if_false, and_self, if_true, escaped, bind, Except.bind,
    later]
  rfl

/-- A run of spaces is read at once. -/
theorem reads_spaces {n : Nat} (start : c.rest = List.replicate n (.char ' ') ++ rest)
    (solid : ∀ p ∈ rest.head?, isBlank p = false ∧ isBreak p = false)
    (later : Reads (c.advance n) t c') : Reads c (List.replicate n (.char ' ') ++ t) c' := by
  rcases n with - | n
  · exact later
  intro fuel enough
  obtain ⟨fuel, rfl⟩ := Nat.exists_eq_succ_of_ne_zero (by omega : fuel ≠ 0)
  have after : (c.advance (n + 1)).rest = rest := by
    rw [Cursor.rest_advance, start, List.drop_left' (by simp)]
  have taken : c.takeWhile isBlank = (List.replicate (n + 1) (.char ' '), c.advance (n + 1)) := by
    have : c.rest.takeWhile isBlank = List.replicate (n + 1) (.char ' ') := by
      rw [start]
      exact Text.takeWhile_append (fun p member => List.eq_of_mem_replicate member ▸ rfl)
        fun p first => (solid p first).1
    rw [Cursor.takeWhile, this, List.length_replicate]
  have broken : (c.advance (n + 1)).lineBreak? = none :=
    Cursor.lineBreak?_eq_none fun p first => (solid p (after ▸ first)).2
  have kept : blanks false fuel c
      = .ok (List.replicate (n + 1) (.char ' '), c.advance (n + 1)) := by
    rw [blanks, taken]
    simp only [broken]
  have later := later fuel (by
    rw [after]
    rw [start] at enough
    simp at enough
    omega)
  rw [content, start, List.replicate_succ, List.cons_append]
  simp only [show isBlank (.char ' ') = true from rfl, Bool.true_or, if_true]
  rw [kept]
  simp only [bind, Except.bind, later]
  rfl

end

/-! ### Escapes -/

theorem escape_simple {fuel : Nat} {c : Cursor} {rest : Text} {letter meaning : Char}
    (start : c.rest = .char letter :: rest)
    (known : simpleEscapes.find? (fun entry => CodePoint.char entry.1 = .char letter)
      = some (letter, meaning)) : escape false fuel c = .ok ([.char meaning], c.next) := by
  rw [escape, start]
  simp only [known]

theorem escape_numbered {fuel : Nat} {c : Cursor} {rest : Text} {p : CodePoint}
    (small : p.value < 0x10000) (start : c.rest = .char 'u' :: (Text.ofNatHex 4 p.value ++ rest)) :
    escape false fuel c = .ok ([p], c.advance 5) := by
  have digits : (Text.ofNatHex 4 p.value ++ rest).take 4 = Text.ofNatHex 4 p.value :=
    List.take_left' (Text.length_ofNatHex small)
  have unknown : simpleEscapes.find? (fun entry => CodePoint.char entry.1 = .char 'u') = none := by
    decide
  have point : codePoint p.value = .ok p := by
    rw [codePoint, if_pos (by omega), CodePoint.ofNat?_value]
  rw [escape, start]
  simp only [unknown, digitCount?, digits, Text.toNat?_ofNatHex, Text.length_ofNatHex small, point]
  rfl

/-! ### Literals -/

open Json.Literal (numbered encodePoint encodePoint_cases escaped? asciiPoint ascii)

section

variable {c c' : Cursor} {t rest : Text}

theorem reads_letter {letter meaning : Char}
    (start : c.rest = .char '\\' :: .char letter :: rest)
    (known : simpleEscapes.find? (fun entry => CodePoint.char entry.1 = .char letter)
      = some (letter, meaning))
    (later : Reads (c.advance 2) t c') : Reads c (.char meaning :: t) c' := by
  have next : c.next.rest = .char letter :: rest := by rw [Cursor.rest_next, start, List.tail_cons]
  refine reads_escape [.char meaning] start (fun fuel => escape_simple next known) ?_
    later
  rw [Cursor.rest_next, next]
  simp

theorem length_numbered {u : CodePoint} (small : u.value < 0x10000) : (numbered u).length = 6 := by
  rw [numbered, List.length_cons, List.length_cons, Text.length_ofNatHex small]

/-- Code points that are written by their numbers are read one by one. -/
theorem reads_numbered {units : Text} (small : ∀ u ∈ units, u.value < 0x10000)
    (start : c.rest = units.flatMap numbered ++ rest)
    (later : Reads (c.advance (units.flatMap numbered).length) t c') :
    Reads c (units ++ t) c' := by
  induction units generalizing c with
  | nil => exact later
  | cons u units ih =>
    have short := small u List.mem_cons_self
    rw [List.flatMap_cons, List.append_assoc] at start
    rw [List.flatMap_cons, List.length_append, length_numbered short, Cursor.advance_add] at later
    have next : c.next.rest
        = .char 'u' :: (Text.ofNatHex 4 u.value ++ (units.flatMap numbered ++ rest)) := by
      rw [Cursor.rest_next, start]
      rfl
    have after : (c.advance 6).rest = units.flatMap numbered ++ rest := by
      rw [Cursor.rest_advance, start, List.drop_left' (length_numbered short)]
    have start : c.rest = .char '\\' :: .char 'u' :: (Text.ofNatHex 4 u.value
        ++ (units.flatMap numbered ++ rest)) := start
    refine reads_escape [u] start (fun fuel => escape_numbered short next) ?_
      (ih (fun v member => small v (List.mem_cons_of_mem _ member)) after later)
    show (c.advance 6).rest.length ≤ _
    rw [after]
    simp
    omega

end

/-- Each letter that JSON knows after a backslash is known here as well. -/
theorem exists_simple_of_escaped? {letter p : CodePoint} (known : escaped? letter = some p) :
    ∃ c meaning, letter = .char c ∧ p = .char meaning ∧
      simpleEscapes.find? (fun entry => CodePoint.char entry.1 = .char c) = some (c, meaning) := by
  unfold escaped? at known
  split at known
  all_goals first
    | cases known
      exact ⟨_, _, rfl, rfl, rfl⟩
    | cases known

theorem units_of_value_lt {p : CodePoint} (small : p.value < 0x10000) : p.units = [p] :=
  if_pos small

theorem value_ne_space {p : CodePoint} (noSpace : p ≠ .char ' ') (printable : 0x20 ≤ p.value) :
    0x20 < p.value := by
  refine printable.lt_of_ne fun same => noSpace ?_
  have := CodePoint.ofNat?_value p
  rw [← same] at this
  exact (Option.some.inj this).symm

section

variable {c c' : Cursor} {t rest : Text}

/-- A code point other than a space is read as its units. -/
theorem reads_point {p : CodePoint} (noSpace : p ≠ .char ' ')
    (start : c.rest = asciiPoint p ++ rest)
    (later : Reads (c.advance (asciiPoint p).length) t c') : Reads c (p.units ++ t) c' := by
  unfold asciiPoint at start later
  by_cases small : p.value < 0x7f
  · rw [if_pos small] at start later
    rw [units_of_value_lt (by omega)]
    rcases encodePoint_cases p with ⟨letter, written, known⟩ | ⟨-, written⟩ |
      ⟨printable, noMark, noBackslash, written⟩
    · obtain ⟨c, meaning, rfl, rfl, simple⟩ := exists_simple_of_escaped? known
      rw [written] at start later
      exact reads_letter start simple later
    · rw [written] at start later
      have start : c.rest = [p].flatMap numbered ++ rest := by simpa using start
      have later : Reads (c.advance ([p].flatMap numbered).length) t c' := by simpa using later
      exact reads_numbered (by simp; omega) start later
    · rw [written] at start later
      exact reads_cons start ⟨isBlank_eq_false (value_ne_space noSpace printable),
        isBreak_eq_false printable (by omega)⟩ noBackslash noMark later
  · rw [if_neg small] at start later
    exact reads_numbered (fun u member => CodePoint.value_lt_of_mem_units member) start later

/-- What a code point other than a space is written as does not begin with a blank. -/
theorem solid_asciiPoint {p : CodePoint} (noSpace : p ≠ .char ' ') (rest : Text) :
    ∀ q ∈ (asciiPoint p ++ rest).head?, isBlank q = false ∧ isBreak q = false := by
  have backslash (others : Text) : ∀ q ∈ (.char '\\' :: others : Text).head?,
      isBlank q = false ∧ isBreak q = false := by
    rintro q ⟨⟩
    exact ⟨rfl, rfl⟩
  unfold asciiPoint
  split
  next small =>
    rcases encodePoint_cases p with ⟨letter, written, -⟩ | ⟨-, written⟩ |
      ⟨printable, -, -, written⟩
    · exact written ▸ backslash _
    · exact written ▸ backslash _
    · rw [written]
      rintro q ⟨⟩
      exact ⟨isBlank_eq_false (value_ne_space noSpace printable),
        isBreak_eq_false printable (by omega)⟩
  next large =>
    obtain ⟨u, others, same⟩ : ∃ u others, p.units = u :: others := by
      unfold CodePoint.units
      split
      · exact ⟨_, _, rfl⟩
      · exact ⟨_, _, rfl⟩
    rw [same, List.flatMap_cons, numbered, List.cons_append, List.cons_append]
    exact backslash _

/-- A literal is read as the units of its text. The induction carries the spaces that were passed
but not read, since a run of them is read at once. -/
theorem reads_ascii {t rest : Text} {n : Nat} {c : Cursor}
    (start : c.rest = List.replicate n (.char ' ') ++ (t.flatMap asciiPoint ++ .char '"' :: rest)) :
    Reads c (List.replicate n (.char ' ') ++ t.units)
      (c.advance (n + (t.flatMap asciiPoint).length + 1)) := by
  have after : (c.advance n).rest = t.flatMap asciiPoint ++ .char '"' :: rest := by
    rw [Cursor.rest_advance, start, List.drop_left' (by simp)]
  induction t generalizing n c with
  | nil =>
    refine reads_spaces start (by rintro p ⟨⟩; exact ⟨rfl, rfl⟩) ?_
    rw [Cursor.advance_add]
    exact reads_close after
  | cons p t ih =>
    by_cases space : p = .char ' '
    · subst space
      have more (u : Text) : List.replicate n (.char ' ') ++ .char ' ' :: u
          = List.replicate (n + 1) (.char ' ') ++ u := by
        rw [List.replicate_succ', List.append_assoc, List.singleton_append]
      have start : c.rest = List.replicate (n + 1) (.char ' ')
          ++ (t.flatMap asciiPoint ++ .char '"' :: rest) := start.trans (more _)
      have read := ih start (by rw [Cursor.rest_advance, start, List.drop_left' (by simp)])
      have length : n + ((.char ' ' :: t : Text).flatMap asciiPoint).length + 1
          = n + 1 + (t.flatMap asciiPoint).length + 1 := by
        rw [List.flatMap_cons, List.length_append,
          show (asciiPoint (.char ' ')).length = 1 from rfl]
        omega
      rw [length, Text.units, List.flatMap_cons, units_of_value_lt (by decide),
        List.singleton_append, more]
      exact read
    · rw [List.flatMap_cons, List.append_assoc] at start after
      refine reads_spaces start (solid_asciiPoint space _) ?_
      have later : ((c.advance n).advance (asciiPoint p).length).rest
          = t.flatMap asciiPoint ++ .char '"' :: rest := Cursor.rest_advance_append after
      have read := ih (n := 0) later later
      rw [Nat.zero_add] at read
      rw [List.flatMap_cons, List.length_append]
      refine reads_point space after ?_
      have length : n + ((asciiPoint p).length + (t.flatMap asciiPoint).length) + 1
          = n + (asciiPoint p).length + ((t.flatMap asciiPoint).length + 1) := by omega
      rw [length, Cursor.advance_add (n + _), Cursor.advance_add n]
      exact read

/-- A literal is a scalar in double quotes. -/
theorem read_ascii {t rest : Text} {c : Cursor} {bound : Nat} (start : c.rest = ascii t ++ rest)
    (enough : c.rest.length ≤ bound) :
    read false .double bound c = .ok (t.units, c.advance (ascii t).length) := by
  have next : c.next.rest = t.flatMap asciiPoint ++ .char '"' :: rest := by
    rw [Cursor.rest_next, start, ascii]
    simp
  have shorter : c.next.rest.length < bound := by
    rw [Cursor.rest_next, List.length_tail]
    rw [start, ascii] at *
    simp at enough ⊢
    omega
  have length : (ascii t).length = 1 + ((t.flatMap asciiPoint).length + 1) := by
    rw [ascii, List.length_cons, List.length_append, List.length_singleton]
    omega
  have content := reads_ascii (n := 0) next bound shorter
  rw [Nat.zero_add] at content
  rw [read, length, Cursor.advance_add]
  exact content

end

end Quoted

end Yaml

end PrismaEsdl
