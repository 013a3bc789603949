import PrismaEsdl.Files.Content
import PrismaEsdl.Proofs.Decimal.Written
import PrismaEsdl.Proofs.Document.Json
import PrismaEsdl.Proofs.Json.Writing
import PrismaEsdl.Proofs.Text.Separated
import PrismaEsdl.Proofs.Text.Utf8

/-!
JSON text is ASCII without carriage returns, so a file with its bytes holds the text itself
(`text?_of_encode?`).
-/

namespace PrismaEsdl

/-- Whether a text has printable characters of ASCII, line feeds and tabs only. -/
def Text.IsAscii (t : Text) : Prop :=
  ∀ p ∈ t, p.IsPrintable ∨ p = .char '\n' ∨ p = .char '\t'

namespace Text.IsAscii

theorem append {t u : Text} (left : IsAscii t) (right : IsAscii u) : IsAscii (t ++ u) := by
  intro p member
  rcases List.mem_append.mp member with inside | inside
  · exact left p inside
  · exact right p inside

theorem of_isPrintable {t : Text} (printable : ∀ p ∈ t, p.IsPrintable) : IsAscii t :=
  fun p member => Or.inl (printable p member)

theorem of_isNumeric {t : Text} (numeric : t.IsNumeric) : IsAscii t := by
  refine of_isPrintable fun p member => ?_
  have := CodePoint.of_isAmong (fun p => decide p.IsPrintable) (numeric p member) (by decide)
  simpa using this

theorem join {separator : Text} {parts : List Text} (between : IsAscii separator)
    (inside : ∀ part ∈ parts, IsAscii part) : IsAscii (Text.join separator parts) :=
  forall_mem_intercalate between inside

theorem isAscii_of_mem {p : CodePoint} {t : Text} (ascii : IsAscii t) (member : p ∈ t) :
    ∃ c : Char, p = .char c ∧ c.toNat < 0x80 ∧ c ≠ '\r' := by
  rcases ascii p member with ⟨low, high⟩ | rfl | rfl
  · cases p with
    | char c =>
      refine ⟨c, rfl, Nat.lt_succ_of_lt high, ?_⟩
      rintro rfl
      revert low
      decide
    | surrogate offset =>
      rw [CodePoint.value] at high
      omega
  · exact ⟨'\n', rfl, by decide, by decide⟩
  · exact ⟨'\t', rfl, by decide, by decide⟩

end Text.IsAscii

/-! ### Bytes -/

namespace Text

/-- A text in ASCII is read from its bytes. -/
theorem decode?_of_encode? {t : Text} (ascii : IsAscii t) {content : List UInt8}
    (encoded : Utf8.encode? t = some content) : Utf8.decode? content = some t := by
  induction t generalizing content with
  | nil =>
    cases encoded
    rfl
  | cons p t ih =>
    obtain ⟨c, rfl, small, -⟩ := ascii.isAscii_of_mem List.mem_cons_self
    have later : IsAscii t := fun q member => ascii q (List.mem_cons_of_mem _ member)
    obtain ⟨others, encoded', rfl⟩ := Option.map_eq_some_iff.mp encoded
    have bytes : String.utf8EncodeChar c = [UInt8.ofNat c.toNat] := by
      unfold String.utf8EncodeChar
      exact if_pos (Nat.le_of_lt_succ small)
    have number : (UInt8.ofNat c.toNat).toNat = c.toNat := by
      rw [UInt8.toNat_ofNat']
      exact Nat.mod_eq_of_lt (by omega)
    have low : UInt8.ofNat c.toNat < 0x80 := by
      rw [UInt8.lt_iff_toNat_lt, number]
      exact small
    have read := Utf8.decode?_eq_some_iff.mp (ih later encoded')
    rw [bytes, List.singleton_append, Utf8.decode?_eq_some_iff, Utf8.decodeFront?.eq_def,
      Utf8.isBegun_cons_eq_false low, if_neg Bool.false_ne_true]
    simp only [if_pos low, read, number, Char.ofNat_toNat]
    rfl

/-- A text in ASCII has bytes. -/
theorem exists_encode? {t : Text} (ascii : IsAscii t) :
    ∃ content, Utf8.encode? t = some content := by
  induction t with
  | nil => exact ⟨[], rfl⟩
  | cons p t ih =>
    obtain ⟨c, rfl, -⟩ := ascii.isAscii_of_mem List.mem_cons_self
    obtain ⟨others, encoded⟩ := ih fun q member => ascii q (List.mem_cons_of_mem _ member)
    exact ⟨_, by rw [Utf8.encode?, encoded]; rfl⟩

end Text

namespace Files

theorem unifyLineEnds_of_isAscii {t : Text} (ascii : t.IsAscii) : unifyLineEnds t = t := by
  induction t with
  | nil => rfl
  | cons p t ih =>
    obtain ⟨c, rfl, -, noReturn⟩ := ascii.isAscii_of_mem List.mem_cons_self
    have later := ih fun q member => ascii q (List.mem_cons_of_mem _ member)
    unfold unifyLineEnds
    split
    next same => cases same
    next same =>
      cases same
      exact absurd rfl noReturn
    next same =>
      cases same
      exact absurd rfl noReturn
    next same =>
      cases same
      rw [later]

/-- A file with the bytes of a text in ASCII holds the text. -/
theorem text?_of_encode? {t : Text} (ascii : t.IsAscii) {content : List UInt8}
    (encoded : Text.Utf8.encode? t = some content) : text? content = some t := by
  rw [text?, Text.decode?_of_encode? ascii encoded]
  exact congrArg some (unifyLineEnds_of_isAscii ascii)

end Files

/-! ### JSON text -/

namespace Json.Layout

/-- Whether nothing but spaces and tabs is used as indentation. -/
def HasBlanks : Layout → Prop
  | line => True
  | lines indentation => ∀ p ∈ indentation, p = .char ' ' ∨ p = .char '\t'

open Text (IsAscii)

variable {layout : Layout}

theorem isAscii_edge (blanks : layout.HasBlanks) (depth : Nat) : IsAscii (layout.edge depth) := by
  cases layout with
  | line => simp [edge, IsAscii]
  | lines indentation =>
    intro p member
    rcases List.mem_cons.mp member with rfl | inside
    · exact Or.inr (Or.inl rfl)
    · obtain ⟨part, listed, inside⟩ := List.mem_flatten.mp inside
      rcases blanks p (List.eq_of_mem_replicate listed ▸ inside) with rfl | rfl
      · exact Or.inl (by decide)
      · exact Or.inr (Or.inr rfl)

theorem isAscii_separator (blanks : layout.HasBlanks) (depth : Nat) :
    IsAscii (layout.separator depth) := by
  cases layout with
  | line =>
    have printable : ∀ p ∈ ([.char ',', .char ' '] : Text), p.IsPrintable := by decide
    exact .of_isPrintable printable
  | lines indentation =>
    have comma : IsAscii [.char ','] := .of_isPrintable (by decide)
    exact comma.append (isAscii_edge blanks depth)

theorem isAscii_enclosed (blanks : layout.HasBlanks) (depth : Nat) {opening closing : Char}
    (brackets : (CodePoint.char opening).IsPrintable ∧ (CodePoint.char closing).IsPrintable)
    {items : List Text} (inside : ∀ item ∈ items, IsAscii item) :
    IsAscii (layout.enclosed depth opening closing items) := by
  have open' : IsAscii [.char opening] := .of_isPrintable (by simpa using brackets.1)
  have close' : IsAscii [.char closing] := .of_isPrintable (by simpa using brackets.2)
  unfold enclosed
  split
  · exact open'.append close'
  · exact open'.append ((((isAscii_edge blanks _).append
      (.join (isAscii_separator blanks _) inside)).append (isAscii_edge blanks _)).append close')

end Json.Layout

namespace Document

open Text (IsAscii)

theorem isAscii_toJsonIn {layout : Json.Layout} (blanks : layout.HasBlanks) {document : Document}
    (json : document.IsJson Binary64.IsCanonical) (depth : Nat) :
    IsAscii (document.toJsonIn layout depth) := by
  induction json generalizing depth with
  | null =>
    have printable : ∀ p ∈ Text.ofString "null", p.IsPrintable := by decide
    exact .of_isPrintable printable
  | bool b =>
    have printable : ∀ p ∈ Text.ofString "true" ++ Text.ofString "false", p.IsPrintable := by decide
    cases b with
    | true => exact .of_isPrintable fun p member => printable p (List.mem_append_left _ member)
    | false => exact .of_isPrintable fun p member => printable p (List.mem_append_right _ member)
  | int i =>
    unfold toJsonIn Text.ofInt
    split
    · exact IsAscii.append (t := [.char '-']) (.of_isPrintable (by decide))
        (.of_isNumeric (Text.IsNumeral.ofNat _).numeric)
    · exact .of_isNumeric (Text.IsNumeral.ofNat _).numeric
  | float canonical =>
    obtain ⟨negative, t, numeral, written⟩ := Binary64.exists_numeral canonical
    rw [toJsonIn, written]
    exact .of_isNumeric (Text.isNumeric_minus_append numeral negative)
  | text t => exact .of_isPrintable (Json.Literal.isPrintable_ascii t)
  | list parts ih =>
    rw [toJsonIn, itemsToJson_eq_map]
    refine Json.Layout.isAscii_enclosed blanks depth (by decide) fun text listed => ?_
    obtain ⟨item, member, rfl⟩ := List.mem_map.mp listed
    exact ih item member (depth + 1)
  | object distinct keys contents ih =>
    rw [toJsonIn, entriesToJson_eq_map]
    refine Json.Layout.isAscii_enclosed blanks depth (by decide) fun text listed => ?_
    obtain ⟨entry, member, rfl⟩ := List.mem_map.mp listed
    obtain ⟨t, same⟩ := keys entry member
    have colon : ∀ p ∈ Text.ofString ": ", p.IsPrintable := by decide
    rw [same]
    exact ((IsAscii.of_isPrintable (Json.Literal.isPrintable_ascii t)).append
      (.of_isPrintable colon)).append (ih entry member (depth + 1))

end Document

end PrismaEsdl
