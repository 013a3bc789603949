import Mathlib.Data.List.Forall2
import PrismaEsdl.Proofs.Json.Ascii
import PrismaEsdl.Proofs.Yaml.Lexer

/-!
The YAML tokens of a JSON document.

Where items are set apart by spaces only, the text of a document has exactly the tokens of the
document (`ofStream_toJson`). A key has its mark in front of it unless its literal is longer than
1024 characters; there is no such mark before a longer one. A tab where a line begins is no
indentation, so a collection with anything in it is broken there (`ofStream_toJson_of_tab`).
-/

namespace PrismaEsdl

namespace Document

open Yaml (Token)

/-- The greatest length of the literal of a key. -/
def maxKeyLength : Nat := 1024

/-- The tokens of a key and of the colon after it. -/
def keyTokens : Document → List Token
  | text t =>
    if (Json.Literal.ascii t).length ≤ maxKeyLength then [.key, .scalar t.units false, .value]
    else [.scalar t.units false, .value]
  | _ => []

mutual

/-- The tokens of a document. -/
def tokens : Document → List Token
  | null => [.scalar "null" true]
  | bool b => [.scalar (if b then "true" else "false") true]
  | int i => [.scalar (Text.ofInt i) true]
  | float x => [.scalar (x.toText .plain) true]
  | text t => [.scalar t.units false]
  | list items =>
    .flowSequence :: ([Token.separator].intercalate (itemTokens items) ++ [.flowSequenceEnd])
  | object entries =>
    .flowMapping :: ([Token.separator].intercalate (entryTokens entries) ++ [.flowMappingEnd])
  | _ => []

def itemTokens : List Document → List (List Token)
  | [] => []
  | item :: rest => tokens item :: itemTokens rest

def entryTokens : List (Document × Document) → List (List Token)
  | [] => []
  | (key, content) :: rest => (keyTokens key ++ tokens content) :: entryTokens rest

end

theorem itemTokens_eq_map (items : List Document) : itemTokens items = items.map tokens := by
  induction items with
  | nil => rfl
  | cons item items ih => rw [itemTokens, ih, List.map_cons]

theorem entryTokens_eq_map (entries : List (Document × Document)) :
    entryTokens entries = entries.map fun entry => keyTokens entry.1 ++ tokens entry.2 := by
  induction entries with
  | nil => rfl
  | cons entry entries ih => rw [entryTokens, ih, List.map_cons]

/-- Whether a document is a collection that is not empty. -/
def hasParts : Document → Bool
  | list items => !items.isEmpty
  | object entries => !entries.isEmpty
  | _ => false

end Document

/-- Whether a tab is used as indentation. -/
def Json.Layout.hasTab : Layout → Bool
  | line => false
  | lines indentation => indentation.contains (.char '\t')

namespace Yaml.Lexer

open Json (Layout)

/-! ### Gaps -/

/-- Whether items are set apart by spaces and line feeds only. -/
def IsSpaced : Layout → Prop
  | .line => True
  | .lines indentation => ∀ p ∈ indentation, p = .char ' '

theorem isSpaced_of_not_hasTab {layout : Layout} (blanks : layout.HasBlanks)
    (noTab : ¬ layout.hasTab = true) : IsSpaced layout := by
  cases layout with
  | line => trivial
  | lines indentation =>
    intro p member
    rcases blanks p member with space | rfl
    · exact space
    · exact absurd (List.contains_iff_mem.mpr member) noTab

theorem edge_eq {layout : Layout} (spaced : IsSpaced layout) (depth : Nat) :
    layout.edge depth = [] ∨
      ∃ n, layout.edge depth = .char '\n' :: List.replicate n (.char ' ') := by
  cases layout with
  | line => exact Or.inl rfl
  | lines indentation =>
    refine Or.inr ⟨(List.replicate depth indentation).flatten.length, ?_⟩
    rw [Layout.edge, List.cons_inj_right]
    refine List.eq_replicate_iff.mpr ⟨rfl, fun p member => ?_⟩
    obtain ⟨part, listed, inside⟩ := List.mem_flatten.mp member
    exact spaced p (List.eq_of_mem_replicate listed ▸ inside)

theorem isGap_edge {layout : Layout} (spaced : IsSpaced layout) (depth : Nat) :
    ∀ p ∈ layout.edge depth, isGap p = true := by
  rcases edge_eq spaced depth with none | ⟨n, same⟩
  · simp [none]
  · rw [same]
    intro p member
    rcases List.mem_cons.mp member with rfl | space
    · rfl
    · exact List.eq_of_mem_replicate space ▸ rfl

theorem startsWithMark_edge {layout : Layout} (spaced : IsSpaced layout) (depth : Nat) {q : Char}
    (mark : q ∈ [']', '\x7d']) (rest : Text) :
    Plain.StartsWithMark (layout.edge depth ++ .char q :: rest) := by
  rcases edge_eq spaced depth with none | ⟨n, same⟩
  · rw [none]
    exact .here (List.mem_cons_of_mem _ mark) rest
  · rw [same]
    exact .below n mark rest

theorem separator_eq {layout : Layout} (spaced : IsSpaced layout) (depth : Nat) :
    ∃ gap, layout.separator depth = .char ',' :: gap ∧ ∀ p ∈ gap, isGap p = true := by
  cases layout with
  | line => exact ⟨[.char ' '], rfl, by simp [isGap]⟩
  | lines indentation => exact ⟨_, rfl, isGap_edge spaced depth⟩

theorem At.skip {s : Lexer} {gap rest : Text} {tokens : List Token} {depth : Nat}
    (blank : ∀ p ∈ gap, isGap p = true) (here : At s (gap ++ rest) tokens depth) :
    At s rest tokens depth :=
  { here with rest_eq := here.rest_eq.trans (skipped_append blank) }

/-! ### Items -/

/-- Whether a text inside of some brackets has some tokens, wherever it stands; if it starts with a
key, then wherever a key may stand. -/
def Lexes (keyed : Bool) (depth : Nat) (text : Text) (tokens : List Token) : Prop :=
  ∀ {s : Lexer} {rest : Text} {before : List Token}, (keyed = true → s.keyAllowed = true) →
    At s (text ++ rest) before depth → (rest = [] ∨ 0 < depth ∧ Plain.StartsWithMark rest) →
    ∃ u, Leads s u ∧ At u rest (before ++ tokens) depth

theorem Lexes.keyed {depth : Nat} {text : Text} {tokens : List Token}
    (lexes : Lexes false depth text tokens) : Lexes true depth text tokens :=
  fun _ here ends => lexes (by simp) here ends

/-- The items of a collection up to its closing bracket. -/
theorem lexes_join {layout : Layout} (spaced : IsSpaced layout) {depth : Nat} {q : Char}
    (mark : q ∈ [']', '\x7d']) {texts : List Text} {parts : List (List Token)}
    (lexes : List.Forall₂ (Lexes true (depth + 1)) texts parts) (nonempty : texts ≠ [])
    {s : Lexer} {rest : Text} {before : List Token} (allowed : s.keyAllowed = true)
    (here : At s (Text.join (layout.separator (depth + 1)) texts
      ++ (layout.edge depth ++ .char q :: rest)) before (depth + 1)) :
    ∃ u, Leads s u ∧
      At u (.char q :: rest) (before ++ [Token.separator].intercalate parts) (depth + 1) := by
  induction lexes generalizing s before with
  | nil => exact absurd rfl nonempty
  | @cons text part texts parts first others ih =>
    cases others with
    | nil =>
      rw [Text.join, List.intercalate_singleton] at here
      obtain ⟨u, leads, place⟩ := first (fun _ => allowed) here
        (Or.inr ⟨depth.succ_pos, startsWithMark_edge spaced depth mark rest⟩)
      rw [List.intercalate_singleton]
      exact ⟨u, leads, place.skip (isGap_edge spaced depth)⟩
    | @cons text' part' texts parts second others =>
      obtain ⟨gap, separator, blank⟩ := separator_eq spaced (depth + 1)
      rw [Text.join, List.intercalate_cons_cons, separator, List.append_assoc, List.append_assoc]
        at here
      obtain ⟨u, leads, place⟩ := first (fun _ => allowed) here
        (Or.inr ⟨depth.succ_pos, .here List.mem_cons_self _⟩)
      obtain ⟨v, leads', place', allowed'⟩ := leads_separator place
      rw [separator] at ih
      obtain ⟨w, leads'', place''⟩ := ih (by simp) allowed' (place'.skip blank)
      refine ⟨w, leads.trans (leads'.trans leads''), ?_⟩
      rw [List.intercalate_cons_cons]
      simpa using place''

/-- A collection is an opening bracket, its items and a closing bracket. -/
theorem lexes_enclosed {layout : Layout} (spaced : IsSpaced layout) {depth : Nat}
    {opening closing : Char} {opened closed : Token} {texts : List Text} {parts : List (List Token)}
    (opens : ∀ (r : Lexer) (rest : Text), r.token (.char opening) rest = r.openBracket opened)
    (closes : ∀ (r : Lexer) (rest : Text), r.token (.char closing) rest = r.closeBracket closed)
    (solid : isGap (.char opening) = false ∧ isBreak (.char opening) = false ∧
      CodePoint.char opening ≠ .char '#' ∧ CodePoint.char opening ≠ Cursor.byteOrderMark)
    (mark : closing ∈ [']', '\x7d'])
    (lexes : List.Forall₂ (Lexes true (depth + 1)) texts parts) :
    Lexes false depth (layout.enclosed depth opening closing texts)
      (opened :: ([Token.separator].intercalate parts ++ [closed])) := by
  intro s rest before _ here _
  have solid' : isGap (.char closing) = false ∧ isBreak (.char closing) = false ∧
      CodePoint.char closing ≠ .char '#' ∧ CodePoint.char closing ≠ Cursor.byteOrderMark := by
    simp only [List.mem_cons, List.not_mem_nil, or_false] at mark
    rcases mark with rfl | rfl <;> decide
  unfold Layout.enclosed at here
  by_cases empty : texts = []
  · subst empty
    cases lexes
    obtain ⟨u, leads, place, -⟩ := leads_open here solid fun r => opens r _
    obtain ⟨v, leads', place'⟩ := leads_close place solid' fun r => closes r _
    exact ⟨v, leads.trans leads', by simpa using place'⟩
  · rw [if_neg (by simpa using empty), List.cons_append] at here
    obtain ⟨u, leads, place, allowed, -⟩ := leads_open here solid fun r => opens r _
    rw [List.append_assoc, List.append_assoc, List.append_assoc] at place
    obtain ⟨v, leads', place'⟩ := lexes_join spaced mark lexes empty allowed
      (place.skip (isGap_edge spaced (depth + 1)))
    obtain ⟨w, leads'', place''⟩ := leads_close place' solid' fun r => closes r _
    exact ⟨w, leads.trans (leads'.trans leads''), by simpa using place''⟩

theorem token_bracket (r : Lexer) (rest : Text) :
    r.token (.char '[') rest = r.openBracket .flowSequence := by
  simp [Lexer.token, show startsWithMark "---" (.char '[' :: rest) = false from rfl,
    show startsWithMark "..." (.char '[' :: rest) = false from rfl]

theorem token_closingBracket (r : Lexer) (rest : Text) :
    r.token (.char ']') rest = r.closeBracket .flowSequenceEnd := by
  simp [Lexer.token, show startsWithMark "---" (.char ']' :: rest) = false from rfl,
    show startsWithMark "..." (.char ']' :: rest) = false from rfl]

theorem token_brace (r : Lexer) (rest : Text) :
    r.token (.char '\x7b') rest = r.openBracket .flowMapping := by
  simp [Lexer.token, show startsWithMark "---" (.char '\x7b' :: rest) = false from rfl,
    show startsWithMark "..." (.char '\x7b' :: rest) = false from rfl]

theorem token_closingBrace (r : Lexer) (rest : Text) :
    r.token (.char '\x7d') rest = r.closeBracket .flowMappingEnd := by
  simp [Lexer.token, show startsWithMark "---" (.char '\x7d' :: rest) = false from rfl,
    show startsWithMark "..." (.char '\x7d' :: rest) = false from rfl]

/-! ### Documents -/

theorem lexes_word {word : Text} (isWord : IsWord word) (depth : Nat) :
    Lexes false depth word [.scalar word true] :=
  fun _ here ends => leads_word isWord here ends

theorem isWord_toText {x : Binary64} (canonical : x.IsCanonical) : IsWord (x.toText .plain) := by
  obtain ⟨negative, t, numeral, written⟩ := Binary64.exists_numeral canonical
  exact written ▸ isWord_minus_append numeral negative

/-- A text with a mark for a key in front of it, or without one if it is too long. -/
theorem leads_keyText {t rest : Text} {s : Lexer} {before : List Token} {depth : Nat}
    (allowed : s.keyAllowed = true)
    (here : At s (Document.keyToJson (.text t) ++ ": " ++ rest) before (depth + 1)) :
    ∃ u, Leads s u ∧ At u rest (before ++ Document.keyTokens (.text t)) (depth + 1) := by
  have here : At s (Json.Literal.ascii t ++ .char ':' :: ([.char ' '] ++ rest)) before
      (depth + 1) := by
    rwa [List.append_assoc] at here
  have blank : ∀ p ∈ ([.char ' '] : Text), isGap p = true := by simp [isGap]
  by_cases short : (Json.Literal.ascii t).length ≤ Document.maxKeyLength
  · obtain ⟨u, leads, place⟩ := leads_key here allowed short
    rw [Document.keyTokens, if_pos short]
    exact ⟨u, leads, place.skip blank⟩
  · obtain ⟨u, leads, place⟩ := leads_longKey here allowed (not_le.mp short)
    rw [Document.keyTokens, if_neg short]
    exact ⟨u, leads, place.skip blank⟩

theorem lexes_toJson {layout : Layout} (spaced : IsSpaced layout) {document : Document}
    (json : document.IsJson Binary64.IsCanonical) (depth : Nat) :
    Lexes false depth (document.toJsonIn layout depth) document.tokens := by
  induction json generalizing depth with
  | null => exact lexes_word (isWord_of_alphanum rfl (by decide)) depth
  | bool b =>
    cases b with
    | true => exact lexes_word (isWord_of_alphanum rfl (by decide)) depth
    | false => exact lexes_word (isWord_of_alphanum rfl (by decide)) depth
  | int i =>
    rw [Document.toJsonIn, Document.tokens, Scalar.ofInt_eq]
    exact lexes_word (isWord_minus_append (.ofNat _) _) depth
  | float canonical => exact lexes_word (isWord_toText canonical) depth
  | text t =>
    intro s rest before _ here _
    obtain ⟨u, leads, place, -⟩ := leads_literal here
    exact ⟨u, leads, place⟩
  | list parts ih =>
    rw [Document.toJsonIn, Document.tokens, Document.itemsToJson_eq_map, Document.itemTokens_eq_map]
    refine lexes_enclosed spaced token_bracket token_closingBracket (by decide) (by decide) ?_
    rw [List.forall₂_map_left_iff, List.forall₂_map_right_iff, List.forall₂_same]
    exact fun item member => Lexes.keyed (@ih item member (depth + 1))
  | object distinct keys contents ih =>
    rw [Document.toJsonIn, Document.tokens, Document.entriesToJson_eq_map,
      Document.entryTokens_eq_map]
    refine lexes_enclosed spaced token_brace token_closingBrace (by decide) (by decide) ?_
    rw [List.forall₂_map_left_iff, List.forall₂_map_right_iff, List.forall₂_same]
    intro entry member s rest before allowed here ends
    obtain ⟨t, same⟩ := keys entry member
    rw [same, List.append_assoc] at here
    obtain ⟨u, leads, place⟩ := leads_keyText (allowed rfl) here
    obtain ⟨v, leads', place'⟩ := ih entry member (depth + 1) (by simp) place ends
    rw [List.append_assoc, ← same] at place'
    exact ⟨v, leads.trans leads', place'⟩

theorem isAllowed_of_isAscii {t : Text} (ascii : t.IsAscii) :
    ∀ p ∈ t, isAllowed p = true := by
  intro p member
  rcases ascii p member with ⟨low, high⟩ | rfl | rfl
  · simp [isAllowed, low, high]
  · rfl
  · rfl

/-- The text of a document has the tokens of the document. -/
theorem ofStream_toJson {layout : Layout} (spaced : IsSpaced layout) {document : Document}
    (json : document.IsJson Binary64.IsCanonical) :
    Token.ofStream (.whole (document.toJson layout)) = document.tokens := by
  have here := start_at (document.toJsonIn layout 0 ++ [])
  obtain ⟨u, leads, place⟩ := lexes_toJson spaced json 0 (by simp) here (Or.inl rfl)
  rw [List.append_nil] at leads
  exact run_of_leads leads place (Nat.lt_succ_self _)

/-! ### Tabs -/

theorem token_tab (r : Lexer) (rest : Text) : r.token (.char '\t') rest = .error .malformed := by
  have noPlain : Plain.starts r.inFlow (.char '\t' :: rest) = false := rfl
  simp [Lexer.token, noPlain, show startsWithMark "---" (.char '\t' :: rest) = false from rfl,
    show startsWithMark "..." (.char '\t' :: rest) = false from rfl]

/-- Nothing is known of a text with a tab behind its opening bracket: the bracket could still be
a key. -/
theorem ofStream_of_tab {opening : Char} {opened : Token} {gap rest : Text}
    (opens : ∀ (r : Lexer) (rest : Text), r.token (.char opening) rest = r.openBracket opened)
    (solid : isGap (.char opening) = false ∧ isBreak (.char opening) = false ∧
      CodePoint.char opening ≠ .char '#' ∧ CodePoint.char opening ≠ Cursor.byteOrderMark)
    (blank : ∀ p ∈ gap, isGap p = true) :
    Token.ofStream (.whole (.char opening :: (gap ++ .char '\t' :: rest)))
      = [.broken .malformed] := by
  obtain ⟨t, ⟨n, shorter, steps⟩, place, -, settled⟩ :=
    leads_open (start_at _) solid fun r => opens r (gap ++ .char '\t' :: rest)
  obtain ⟨r, ready⟩ := exists_ready (place.skip blank) (by decide)
  have none : t.settled = 0 := Nat.le_zero.mp (settled rfl)
  obtain ⟨fuel, enough⟩ := Nat.exists_eq_add_of_lt
    (show n < (start (.whole (.char opening :: (gap ++ .char '\t' :: rest)))).bound from
      Nat.lt_succ_of_le ((Nat.le_add_right _ _).trans shorter))
  rw [Token.ofStream, enough, show n + fuel + 1 = fuel + 1 + n by omega, steps,
    ready.breaks fuel (token_tab r rest), none]
  rfl

/-- The text of a collection that is not empty starts with a bracket and the indentation. -/
theorem enclosed_eq_append {indentation : Text} (opening closing : Char) {items : List Text}
    (nonempty : items ≠ []) :
    ∃ rest, (Layout.lines indentation).enclosed 0 opening closing items
      = .char opening :: .char '\n' :: (indentation ++ rest) := by
  unfold Layout.enclosed
  rw [if_neg (by simpa using nonempty), Layout.edge, List.replicate_one, List.flatten_singleton]
  exact ⟨Text.join ((Layout.lines indentation).separator 1) items
    ++ ((Layout.lines indentation).edge 0 ++ [.char closing]),
    by simp only [List.cons_append, List.append_assoc, Nat.zero_add]⟩

theorem exists_tab {indentation : Text} (blanks : (Layout.lines indentation).HasBlanks)
    (tab : (Layout.lines indentation).hasTab = true) :
    ∃ gap rest, indentation = gap ++ .char '\t' :: rest ∧ ∀ p ∈ gap, isGap p = true := by
  obtain ⟨gap, rest, rfl, first⟩ := List.eq_append_cons_of_mem (List.contains_iff_mem.mp tab)
  refine ⟨gap, rest, rfl, fun p member => ?_⟩
  rcases blanks p (List.mem_append_left _ member) with rfl | rfl
  · rfl
  · exact absurd member first

theorem ofStream_enclosed_of_tab {indentation : Text} {opening closing : Char} {opened : Token}
    {items : List Text} (blanks : (Layout.lines indentation).HasBlanks)
    (tab : (Layout.lines indentation).hasTab = true) (nonempty : items ≠ [])
    (opens : ∀ (r : Lexer) (rest : Text), r.token (.char opening) rest = r.openBracket opened)
    (solid : isGap (.char opening) = false ∧ isBreak (.char opening) = false ∧
      CodePoint.char opening ≠ .char '#' ∧ CodePoint.char opening ≠ Cursor.byteOrderMark) :
    Token.ofStream (.whole ((Layout.lines indentation).enclosed 0 opening closing items))
      = [.broken .malformed] := by
  obtain ⟨gap, more, rfl, blank⟩ := exists_tab blanks tab
  obtain ⟨rest, shape⟩ := enclosed_eq_append opening closing nonempty
  have blank' : ∀ p ∈ (.char '\n' :: gap : Text), isGap p = true :=
    List.forall_mem_cons.mpr ⟨rfl, blank⟩
  rw [shape, List.append_assoc, List.cons_append, ← List.cons_append]
  exact ofStream_of_tab opens solid blank'

/-- Where a tab is used as indentation, nothing is known of a collection that is not empty. -/
theorem ofStream_toJson_of_tab {layout : Layout} (blanks : layout.HasBlanks)
    (tab : layout.hasTab = true) {document : Document}
    (json : document.IsJson Binary64.IsCanonical) (parts : document.hasParts = true) :
    Token.ofStream (.whole (document.toJson layout)) = [.broken .malformed] := by
  cases layout with
  | line => cases tab
  | lines indentation =>
    cases json with
    | null | bool _ | int _ | float _ | text _ => cases parts
    | @list items _ =>
      refine ofStream_enclosed_of_tab blanks tab ?_ token_bracket (by decide)
      rw [Document.itemsToJson_eq_map]
      simpa [Document.hasParts] using parts
    | @object entries _ _ _ =>
      refine ofStream_enclosed_of_tab blanks tab ?_ token_brace (by decide)
      rw [Document.entriesToJson_eq_map]
      simpa [Document.hasParts] using parts

/-- A scalar and an empty collection have the same text in every layout. -/
theorem toJson_of_not_hasParts {document : Document} (whole : document.hasParts = false)
    (layout : Layout) : document.toJson layout = document.toJson .line := by
  cases document with
  | list items =>
    obtain rfl : items = [] := by simpa [Document.hasParts] using whole
    rfl
  | object entries =>
    obtain rfl : entries = [] := by simpa [Document.hasParts] using whole
    rfl
  | _ => rfl

/-- The text of a document has the tokens of the document, unless a tab is used in it. -/
theorem ofStream_toJson_eq {layout : Layout} (blanks : layout.HasBlanks) {document : Document}
    (json : document.IsJson Binary64.IsCanonical) :
    Token.ofStream (.whole (document.toJson layout))
      = if layout.hasTab && document.hasParts then [.broken .malformed] else document.tokens := by
  by_cases parts : document.hasParts = true
  · by_cases tab : layout.hasTab = true
    · rw [if_pos (by simp [parts, tab]), ofStream_toJson_of_tab blanks tab json parts]
    · rw [if_neg (by simp [tab]), ofStream_toJson (isSpaced_of_not_hasTab blanks tab) json]
  · have whole := Bool.not_eq_true _ ▸ parts
    have spaced : IsSpaced .line := trivial
    rw [if_neg (by simp [whole]), toJson_of_not_hasParts whole layout, ofStream_toJson spaced json]

end Yaml.Lexer

end PrismaEsdl
