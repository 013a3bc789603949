import PrismaEsdl.Text.Utf8

/-!
Bytes read in pieces.

The bytes of a character that is not complete are left over, and nothing else is: so pieces of
bytes, each read with what the one before left over, write what all the bytes write
(`decode?_append`). A front of the bytes of a character is found to be one whatever follows
(`isBegun_of_ofTwo?` and the others).
-/

namespace PrismaEsdl.Text.Utf8

theorem continuation?_eq_some_iff {b : UInt8} {c : Nat} :
    continuation? b = some c ↔ b.toNat = 0x80 + c ∧ c < 0x40 := by
  simp only [continuation?, UInt8.le_iff_toNat_le, UInt8.lt_iff_toNat_lt, UInt8.toNat_ofNat,
    Option.ite_none_right_eq_some, Option.some.injEq]
  omega

theorem bounds_of_character? {least n : Nat} {p : CodePoint} (found : character? least n = some p) :
    least ≤ n ∧ n < 0x110000 := by
  simp only [character?, Nat.isValidChar, Option.ite_none_right_eq_some] at found
  omega

theorem isBegun_of_append {bytes more : List UInt8} (begun : isBegun (bytes ++ more) = true)
    (nonempty : bytes ≠ []) : isBegun bytes = true := by
  match bytes, more with
  | [_], [] | [_, _], [] | [_, _, _], [] => simpa using begun
  | [_], [_] | [_], [_, _] | [_, _], [_] => grind [isBegun]
  | [_], _ :: _ :: _ :: _ | [_, _], _ :: _ :: _ | [_, _, _], _ :: _ | _ :: _ :: _ :: _ :: _, _ =>
    cases begun

variable {b b₁ b₂ b₃ : UInt8} {p : CodePoint}

/-- A byte that is a character is not the beginning of one. -/
theorem isBegun_cons_eq_false {rest : List UInt8} (low : b < 0x80) :
    isBegun (b :: rest) = false := by
  rw [Bool.eq_false_iff]
  intro begun
  have first : isBegun [b] = true := isBegun_of_append begun (List.cons_ne_nil _ _)
  simp only [isBegun, Bool.and_eq_true, decide_eq_true_eq, UInt8.le_iff_toNat_le,
    UInt8.lt_iff_toNat_lt, UInt8.toNat_ofNat] at first low
  omega

/-- The first of two bytes that write a character begins it. -/
theorem isBegun_of_ofTwo? (most : b < 0xE0) (found : ofTwo? b b₁ = some p) :
    isBegun [b] = true := by
  obtain ⟨c₁, next, found⟩ := Option.bind_eq_some_iff.mp found
  obtain ⟨least, found⟩ := Option.ite_none_right_eq_some.mp found
  have bounds := bounds_of_character? found
  have number := continuation?_eq_some_iff.mp next
  simp only [isBegun, Bool.and_eq_true, decide_eq_true_eq, UInt8.le_iff_toNat_le,
    UInt8.lt_iff_toNat_lt, UInt8.toNat_ofNat] at least most ⊢
  omega

theorem isBegun_of_ofThree? (least : ¬ b < 0xE0) (most : b < 0xF0)
    (found : ofThree? b b₁ b₂ = some p) : isBegun [b, b₁] = true := by
  obtain ⟨c₁, next, found⟩ := Option.bind_eq_some_iff.mp found
  obtain ⟨c₂, next', found⟩ := Option.bind_eq_some_iff.mp found
  have bounds := bounds_of_character? found
  have number := continuation?_eq_some_iff.mp next
  have number' := continuation?_eq_some_iff.mp next'
  simp only [isBegun, next, Option.isSome_some, Bool.true_and, Bool.and_eq_true, Bool.or_eq_true,
    beq_iff_eq, decide_eq_true_eq, UInt8.le_iff_toNat_le, UInt8.lt_iff_toNat_lt,
    ← UInt8.toNat_inj, UInt8.toNat_ofNat] at least most ⊢
  omega

theorem isBegun_of_ofFour? (least : ¬ b < 0xF0) (found : ofFour? b b₁ b₂ b₃ = some p) :
    isBegun [b, b₁, b₂] = true := by
  obtain ⟨c₁, next, found⟩ := Option.bind_eq_some_iff.mp found
  obtain ⟨c₂, next', found⟩ := Option.bind_eq_some_iff.mp found
  obtain ⟨c₃, next'', found⟩ := Option.bind_eq_some_iff.mp found
  have bounds := bounds_of_character? found
  have number := continuation?_eq_some_iff.mp next
  have number' := continuation?_eq_some_iff.mp next'
  have number'' := continuation?_eq_some_iff.mp next''
  simp only [isBegun, next, next', Option.isSome_some, Bool.true_and, Bool.and_eq_true,
    Bool.or_eq_true, beq_iff_eq, decide_eq_true_eq, UInt8.le_iff_toNat_le, UInt8.lt_iff_toNat_lt,
    ← UInt8.toNat_inj, UInt8.toNat_ofNat] at least ⊢
  omega

/-- Where bytes are not begun, no character is read that they begin. -/
theorem eq_none_of_not_isBegun {bytes : List UInt8} {p? : Option CodePoint}
    (fresh : ¬ isBegun bytes = true) (begins : ∀ {p}, p? = some p → isBegun bytes = true) :
    p? = none :=
  Option.eq_none_iff_forall_ne_some.mpr fun _ found => fresh (begins found)

/-- Reading on behind a front: the bytes that are left over come before some more. -/
def readOn (more : List UInt8) (front : Text × List UInt8) : Option (Text × List UInt8) :=
  (decodeFront? (front.2 ++ more)).map fun back => (front.1 ++ back.1, back.2)

theorem putBefore_readOn {rest more : List UInt8}
    (ih : decodeFront? (rest ++ more) = (decodeFront? rest).bind (readOn more))
    (p? : Option CodePoint) :
    (do return putBefore (← p?) (← decodeFront? (rest ++ more))) =
      Option.bind (do return putBefore (← p?) (← decodeFront? rest)) (readOn more) := by
  rw [ih]
  cases p? with
  | none => rfl
  | some p =>
      cases decodeFront? rest with
      | none => rfl
      | some front =>
          simp only [Option.bind_eq_bind, Option.bind_some, Option.pure_def, readOn, putBefore]
          cases decodeFront? (front.2 ++ more) <;> rfl

/-- What some bytes write may be read in pieces. -/
theorem decodeFront?_append : ∀ bytes more : List UInt8,
    decodeFront? (bytes ++ more) = (decodeFront? bytes).bind (readOn more)
  | [], more => by simp [decodeFront?.eq_def [], isBegun, readOn]
  | b :: rest, more => by
    by_cases begun : isBegun (b :: rest) = true
    · simp [decodeFront?.eq_def (b :: rest), begun, readOn]
    -- So nothing that goes on with these bytes is begun.
    have fresh (left : List UInt8) : ¬ isBegun (b :: rest ++ left) = true := fun later =>
      begun (isBegun_of_append later (List.cons_ne_nil _ _))
    rw [decodeFront?.eq_def (b :: rest), decodeFront?.eq_def (b :: rest ++ more), if_neg begun,
      if_neg (fresh more)]
    simp only [List.cons_append]
    split
    · exact putBefore_readOn (decodeFront?_append rest more) (some _)
    split
    · match rest, more with
      | [], [] => rfl
      | [], b₁ :: _ =>
        have none : ofTwo? b b₁ = none :=
          eq_none_of_not_isBegun (fresh []) (isBegun_of_ofTwo? ‹_›)
        simp [none]
      | b₁ :: rest, more => exact putBefore_readOn (decodeFront?_append rest more) _
    split
    · match rest, more with
      | [], [] | [], [_] | [_], [] => rfl
      | [], b₁ :: b₂ :: _ =>
        have none : ofThree? b b₁ b₂ = none :=
          eq_none_of_not_isBegun (fresh [b₁]) (isBegun_of_ofThree? ‹_› ‹_›)
        simp [none]
      | [b₁], b₂ :: _ =>
        have none : ofThree? b b₁ b₂ = none :=
          eq_none_of_not_isBegun (fresh []) (isBegun_of_ofThree? ‹_› ‹_›)
        simp [none]
      | b₁ :: b₂ :: rest, more => exact putBefore_readOn (decodeFront?_append rest more) _
    · match rest, more with
      | [], [] | [], [_] | [], [_, _] | [_], [] | [_], [_] | [_, _], [] => rfl
      | [], b₁ :: b₂ :: b₃ :: _ =>
        have none : ofFour? b b₁ b₂ b₃ = none :=
          eq_none_of_not_isBegun (fresh [b₁, b₂]) (isBegun_of_ofFour? ‹_›)
        simp [none]
      | [b₁], b₂ :: b₃ :: _ =>
        have none : ofFour? b b₁ b₂ b₃ = none :=
          eq_none_of_not_isBegun (fresh [b₂]) (isBegun_of_ofFour? ‹_›)
        simp [none]
      | [b₁, b₂], b₃ :: _ =>
        have none : ofFour? b b₁ b₂ b₃ = none :=
          eq_none_of_not_isBegun (fresh []) (isBegun_of_ofFour? ‹_›)
        simp [none]
      | b₁ :: b₂ :: b₃ :: rest, more => exact putBefore_readOn (decodeFront?_append rest more) _

theorem exists_of_putBefore {p? : Option CodePoint} {rest? : Option (Text × List UInt8)}
    {front : Text × List UInt8} (made : (do return putBefore (← p?) (← rest?)) = some front) :
    ∃ p rest, rest? = some rest ∧ front = putBefore p rest := by
  obtain ⟨p, -, made⟩ := Option.bind_eq_some_iff.mp made
  obtain ⟨rest, read, made⟩ := Option.bind_eq_some_iff.mp made
  exact ⟨p, rest, read, (Option.some.inj made).symm⟩

/-- What is left over is nothing or the beginning of a character, and there are no more characters
than bytes before it. -/
theorem bounds_of_decodeFront? {bytes : List UInt8} : ∀ {front : Text × List UInt8},
    decodeFront? bytes = some front →
      (front.2 = [] ∨ isBegun front.2 = true) ∧
        front.1.length + front.2.length ≤ bytes.length := by
  have step {rest : List UInt8} (own : List UInt8) (p? : Option CodePoint)
      (ih : ∀ {front}, decodeFront? rest = some front →
        (front.2 = [] ∨ isBegun front.2 = true) ∧
          front.1.length + front.2.length ≤ rest.length)
      {front : Text × List UInt8} (nonempty : own ≠ [])
      (made : (do return putBefore (← p?) (← decodeFront? rest)) = some front) :
      (front.2 = [] ∨ isBegun front.2 = true) ∧
        front.1.length + front.2.length ≤ (own ++ rest).length := by
    obtain ⟨p, behind, read, rfl⟩ := exists_of_putBefore made
    obtain ⟨begun, fits⟩ := ih read
    refine ⟨begun, ?_⟩
    have := List.length_pos_iff.mpr nonempty
    simp only [putBefore, List.length_cons, List.length_append]
    omega
  fun_induction decodeFront? bytes with
  | case1 bytes begun =>
    rintro _ ⟨⟩
    exact ⟨.inr begun, Nat.le_of_eq (Nat.zero_add _)⟩
  | case2 =>
    rintro _ ⟨⟩
    exact ⟨.inl rfl, Nat.le_refl _⟩
  | case3 b _ _ _ ih => exact step [b] (some _) ih (List.cons_ne_nil _ _)
  | case4 b _ _ b₁ _ _ ih => exact step [b, b₁] _ ih (List.cons_ne_nil _ _)
  | case6 b _ _ _ b₁ b₂ _ _ ih => exact step [b, b₁, b₂] _ ih (List.cons_ne_nil _ _)
  | case8 b _ _ _ b₁ b₂ b₃ _ _ ih => exact step [b, b₁, b₂, b₃] _ ih (List.cons_ne_nil _ _)
  | case5 | case7 | case9 => nofun

theorem decode?_eq_some_iff {bytes : List UInt8} {t : Text} :
    decode? bytes = some t ↔ decodeFront? bytes = some (t, []) := by
  unfold decode?
  split
  · rename_i found
    simp [found]
  · rename_i other
    exact iff_of_false nofun fun found => other _ found

/-- Bytes write a text exactly if those in front write the front of it, and what is left over of
them writes the rest together with the others. -/
theorem decode?_append {bytes more : List UInt8} {t : Text} :
    decode? (bytes ++ more) = some t ↔ ∃ front left back,
      decodeFront? bytes = some (front, left) ∧ decode? (left ++ more) = some back ∧
        front ++ back = t := by
  rw [decode?_eq_some_iff, decodeFront?_append, Option.bind_eq_some_iff]
  constructor
  · rintro ⟨⟨front, left⟩, read, on⟩
    obtain ⟨⟨back, rest⟩, read', same⟩ := Option.map_eq_some_iff.mp on
    cases same
    exact ⟨front, left, back, read, decode?_eq_some_iff.mpr read', rfl⟩
  · rintro ⟨front, left, back, read, read', rfl⟩
    exact ⟨_, read, Option.map_eq_some_iff.mpr ⟨_, decode?_eq_some_iff.mp read', rfl⟩⟩

end PrismaEsdl.Text.Utf8
