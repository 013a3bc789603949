import PrismaEsdl.Proofs.Yaml.Plain
import PrismaEsdl.Proofs.Yaml.Quoted
import PrismaEsdl.Proofs.Yaml.Scalar

/-!
Tokens inside of brackets, one at a time.

Where no indentation counts and nothing has to be a key, a lexer is known from what follows, the
tokens so far and the number of brackets around it (`At`). Each mark of a collection and each scalar
leads from such a state to the next one.
-/

namespace PrismaEsdl.Yaml

namespace TokenRow

@[simp] theorem toList_empty : empty.toList = [] := rfl

@[simp] theorem toList_push (row : TokenRow) (token : Token) :
    (row.push token).toList = row.toList ++ [token] := by
  simp [push, toList]

theorem length_toList (row : TokenRow) : row.toList.length = row.size := by
  simp [toList, row.size_eq]

/-- A token is put in between the tokens in front of it and those behind it. -/
theorem toList_insert {row : TokenRow} {before after : List Token}
    (same : row.toList = before ++ after) (token : Token) :
    (row.insert before.length token).toList = before ++ token :: after := by
  have size : row.size = before.length + after.length := by
    rw [← row.length_toList, same, List.length_append]
  have reversed : row.reversed = after.reverse ++ before.reverse := by
    rw [← List.reverse_append, ← same, toList, List.reverse_reverse]
  simp [insert, toList, reversed, size]

end TokenRow

namespace Lexer

/-! ### Candidates -/

/-- Whether a candidate may be given up. -/
def IsFree (candidate : Option KeyCandidate) : Prop := ∀ key ∈ candidate, key.required = false

theorem isFree_none : IsFree none := by simp [IsFree]

theorem drop_of_free {candidate : Option KeyCandidate} (free : IsFree candidate) :
    KeyCandidate.drop candidate = .ok none := by
  cases candidate with
  | none => rfl
  | some key =>
    rw [KeyCandidate.drop, free key rfl]
    rfl

theorem IsFree.filter {candidate : Option KeyCandidate} (free : IsFree candidate)
    (kept : KeyCandidate → Bool) : IsFree (candidate.filter kept) :=
  fun key held => free key (Option.filter_eq_some_iff.mp held).1

/-- Candidates that may be given up are, where they are stale. -/
theorem expire_of_free {candidate : Option KeyCandidate} (free : IsFree candidate) (c : Cursor) :
    KeyCandidate.expire c candidate = .ok (candidate.filter (!·.isStale c)) := by
  cases candidate with
  | none => rfl
  | some key =>
    rw [KeyCandidate.expire, drop_of_free free, Option.filter_some]
    cases key.isStale c <;> rfl

theorem mapM_expire_of_free (c : Cursor) {candidates : List (Option KeyCandidate)}
    (free : ∀ candidate ∈ candidates, IsFree candidate) :
    candidates.mapM (KeyCandidate.expire c)
      = .ok (candidates.map fun candidate => candidate.filter (!·.isStale c)) := by
  induction candidates with
  | nil => rfl
  | cons candidate candidates ih =>
    rw [List.mapM_cons, expire_of_free (free candidate List.mem_cons_self),
      ih fun other member => free other (List.mem_cons_of_mem _ member)]
    rfl

/-! ### Places -/

/-- A lexer before a text, with the tokens so far and the number of brackets around it. No
indentation counts, nothing has to be a key, and the text comes in as a whole. -/
structure At (s : Lexer) (rest : Text) (tokens : List Token) (depth : Nat) : Prop where
  rest_eq : skipped s.cursor.rest = skipped rest
  tokens_eq : s.tokens.toList = tokens
  depth_eq : s.outer.length = depth
  noBlocks : s.blocks = []
  candidate_free : IsFree s.candidate
  outer_free : ∀ candidate ∈ s.outer, IsFree candidate
  inBound : s.cursor.rest.length < s.bound
  isWhole : s.behind = none

/-- Whether the tokens from one state on are those from another one on, in steps that each take at
least one code point. -/
def Leads (s t : Lexer) : Prop :=
  ∃ n, n + t.cursor.rest.length ≤ s.cursor.rest.length ∧ ∀ fuel, run (fuel + n) s = run fuel t

theorem Leads.trans {s t u : Lexer} (first : Leads s t) (second : Leads t u) : Leads s u := by
  obtain ⟨m, shorter, steps⟩ := first
  obtain ⟨n, shorter', steps'⟩ := second
  refine ⟨n + m, by omega, fun fuel => ?_⟩
  rw [← Nat.add_assoc, steps, steps']

theorem unwind_eq_self {s : Lexer} (noBlocks : s.blocks = []) : s.unwind = s := by
  unfold unwind
  split
  · rfl
  · rw [noBlocks]
    simp only [endBlocks]
    rw [← noBlocks]

theorem unwindAll_eq_self {s : Lexer} (noBlocks : s.blocks = []) : s.unwindAll = s := by
  unfold unwindAll
  split
  · rfl
  · rw [noBlocks]
    simp only [List.foldl_nil]
    rw [← noBlocks]

theorem start_at (t : Text) : At (start (.whole t)) t [] 0 where
  rest_eq := rfl
  tokens_eq := rfl
  depth_eq := rfl
  noBlocks := rfl
  candidate_free := isFree_none
  outer_free := by simp [start]
  inBound := Nat.lt_succ_self _
  isWhole := rfl

/-- Nothing is cut off from a text that comes in as a whole. -/
theorem At.cutOff_eq_false {s : Lexer} {rest : Text} {tokens : List Token} {depth : Nat}
    (here : At s rest tokens depth) : s.cutOff = false := by
  simp [cutOff, here.isWhole]

theorem At.isCutOff_eq_false {s : Lexer} {rest : Text} {tokens : List Token} {depth : Nat}
    (here : At s rest tokens depth) : s.isCutOff = false := by
  simp [isCutOff, here.cutOff_eq_false]

/-- A lexer goes on to the next token. -/
theorem toToken_at {s : Lexer} {rest : Text} {tokens : List Token} {depth : Nat}
    (here : At s rest tokens depth) (solid : StartsSolid rest) :
    s.toToken.cursor.rest = skipped rest ∧ At s.toToken rest tokens depth ∧
      (s.keyAllowed = true → s.toToken.keyAllowed = true) ∧ s.toToken.tokens = s.tokens ∧
      s.toToken.candidate = s.candidate ∧
      ((∀ p ∈ s.cursor.rest.head?, isGap p = false) → s.toToken.cursor = s.cursor) := by
  have solid' : StartsSolid s.cursor.rest := by rwa [StartsSolid, here.rest_eq]
  have noMark : startsWith (· == Cursor.byteOrderMark) s.cursor.rest = false := by
    cases start : s.cursor.rest with
    | nil => rfl
    | cons p others =>
      rw [startsWith, beq_eq_false_iff_ne]
      rintro rfl
      rw [start] at solid'
      exact (solid' _ rfl).2.2 rfl
  have skip : s.toToken = { s with
      cursor := (skipLines s.bound s.cursor).1,
      keyAllowed := s.keyAllowed || ((skipLines s.bound s.cursor).2 && !s.inFlow) } := by
    simp only [toToken, noMark, Bool.false_eq_true, and_false, if_false]
  have place : s.toToken.cursor.rest = skipped rest := by
    rw [skip, ← here.rest_eq]
    exact rest_skipLines here.inBound solid'
  refine ⟨place, ?_, fun allowed => by simp [skip, allowed], by rw [skip], by rw [skip],
    fun noGap => ?_⟩
  rotate_left
  · have start := skipped_eq_self noGap
    have still : ∀ p ∈ s.cursor.rest.head?,
        p ≠ .char ' ' ∧ p ≠ .char '#' ∧ isBreak p = false := by
      intro p first
      have noSpace := noGap p first
      rw [← start] at first
      refine ⟨?_, (solid' p first).2.1, (solid' p first).1⟩
      rintro rfl
      cases noSpace
    rw [skip, skipLines_eq_self still]
  have shorter : (skipped rest).length ≤ s.cursor.rest.length := by
    rw [← here.rest_eq]
    exact (List.dropWhile_suffix _).length_le
  exact {
    rest_eq := by rw [place, skipped_skipped]
    tokens_eq := by rw [skip]; exact here.tokens_eq
    depth_eq := by rw [skip]; exact here.depth_eq
    noBlocks := by rw [skip]; exact here.noBlocks
    candidate_free := by rw [skip]; exact here.candidate_free
    outer_free := by rw [skip]; exact here.outer_free
    inBound := by
      rw [place, skip]
      exact shorter.trans_lt here.inBound
    isWhole := by rw [skip]; exact here.isWhole }

/-- Candidates that are stale are given up, and nothing else changes. -/
theorem expireCandidates_at {s : Lexer} {rest : Text} {tokens : List Token} {depth : Nat}
    (here : At s rest tokens depth) :
    ∃ e : Lexer, s.expireCandidates = .ok e ∧ At e rest tokens depth ∧ e.cursor = s.cursor ∧
      e.keyAllowed = s.keyAllowed ∧ e.tokens = s.tokens ∧
      e.candidate = s.candidate.filter (!·.isStale s.cursor) := by
  refine ⟨{ s with
    candidate := s.candidate.filter (!·.isStale s.cursor),
    outer := s.outer.map fun candidate => candidate.filter (!·.isStale s.cursor) },
    ?_, ?_, rfl, rfl, rfl, rfl⟩
  · rw [expireCandidates, expire_of_free here.candidate_free,
      mapM_expire_of_free s.cursor here.outer_free]
    rfl
  · exact { here with
      depth_eq := (List.length_map _).trans here.depth_eq
      candidate_free := here.candidate_free.filter _
      outer_free := fun candidate member => by
        obtain ⟨original, given, rfl⟩ := List.mem_map.mp member
        exact (here.outer_free original given).filter _ }

/-- A lexer goes on to the next token and takes it. Candidates that are stale are given up before
and behind what is skipped; where nothing is skipped they are given up once. -/
theorem exists_reached {s : Lexer} {rest : Text} {tokens : List Token} {depth : Nat}
    (here : At s rest tokens depth) (solid : StartsSolid rest) :
    ∃ r : Lexer, r.cursor.rest = skipped rest ∧ At r rest tokens depth ∧
      (s.keyAllowed = true → r.keyAllowed = true) ∧ r.tokens = s.tokens ∧
      ((∀ p ∈ s.cursor.rest.head?, isGap p = false) →
        r.cursor = s.cursor ∧ r.candidate = s.candidate.filter (!·.isStale s.cursor)) ∧
      s.next = match r.cursor.rest with
        | [] => do return .inr (← r.unwindAll.dropCandidate)
        | p :: others => do
          let t ← r.token p others
          if t.isCutOff then throw .unfinished
          return .inl t := by
  obtain ⟨e, expired, before, cursor_kept, allowed_kept, tokens_kept, left⟩ :=
    expireCandidates_at here
  obtain ⟨place, next, allowed, tokens_kept', candidate_kept, exact⟩ := toToken_at before solid
  obtain ⟨r, expired', reached, cursor_kept', allowed_kept', tokens_kept'', left'⟩ :=
    expireCandidates_at next
  refine ⟨r, cursor_kept' ▸ place, reached,
    fun held => allowed_kept'.trans (allowed (allowed_kept.trans held)),
    tokens_kept''.trans (tokens_kept'.trans tokens_kept), fun noGap => ?_, ?_⟩
  · have same : e.toToken.cursor = s.cursor :=
      (exact (cursor_kept ▸ noGap)).trans cursor_kept
    refine ⟨cursor_kept'.trans same, ?_⟩
    rw [left', candidate_kept, left, same, Option.filter_filter]
    simp only [Bool.and_self]
  · simp only [Lexer.next, expired, next.isCutOff_eq_false, expired', bind, Except.bind,
      unwind_eq_self reached.noBlocks, isCutInMark, reached.cutOff_eq_false, Bool.false_and]
    rfl

/-- A lexer before a token: it stands at the token, and one step takes the token. -/
structure Ready (s : Lexer) (p : CodePoint) (rest : Text) (tokens : List Token) (depth : Nat)
    (r : Lexer) : Prop where
  cursor_eq : r.cursor.rest = p :: rest
  place : At r (p :: rest) tokens depth
  keyAllowed : s.keyAllowed = true → r.keyAllowed = true
  tokens_kept : r.tokens = s.tokens
  cursor_kept : s.cursor.rest = p :: rest → r.cursor = s.cursor
  candidate_eq : s.cursor.rest = p :: rest →
    r.candidate = s.candidate.filter (!·.isStale r.cursor)
  leads {t : Lexer} : r.token p rest = .ok t → t.cursor.rest.length ≤ rest.length →
    t.behind = r.behind → Leads s t
  breaks (fuel : Nat) : r.token p rest = .error .malformed →
    run (fuel + 1) s = s.tokens.toList.take s.settled ++ [.broken .malformed]

theorem Ready.length_lt {s r : Lexer} {p : CodePoint} {rest t : Text} {tokens : List Token}
    {depth : Nat} (ready : Ready s p rest tokens depth r) (shorter : t.length ≤ rest.length) :
    t.length < r.bound := by
  have := ready.place.inBound
  rw [ready.cursor_eq, List.length_cons] at this
  omega

theorem exists_ready {s : Lexer} {p : CodePoint} {rest : Text} {tokens : List Token} {depth : Nat}
    (here : At s (p :: rest) tokens depth)
    (solid : isGap p = false ∧ isBreak p = false ∧ p ≠ .char '#' ∧ p ≠ Cursor.byteOrderMark) :
    ∃ r, Ready s p rest tokens depth r := by
  have start : skipped (p :: rest) = p :: rest := skipped_eq_self (by rintro q ⟨⟩; exact solid.1)
  obtain ⟨r, place, reached, allowed, tokens_same, exact, next_eq⟩ := exists_reached here (by
    rw [StartsSolid, start]
    rintro q ⟨⟩
    exact solid.2)
  rw [start] at place
  simp only [place] at next_eq
  have noGap (same : s.cursor.rest = p :: rest) : ∀ q ∈ s.cursor.rest.head?, isGap q = false := by
    rw [same]
    rintro q ⟨⟩
    exact solid.1
  refine ⟨r, place, reached, allowed, tokens_same, fun same => (exact (noGap same)).1,
    fun same => ?_, fun {t} taken shorter sameBehind => ⟨1, ?_, fun fuel => ?_⟩,
    fun fuel failed => ?_⟩
  · obtain ⟨cursor_same, candidate_same⟩ := exact (noGap same)
    exact cursor_same ▸ candidate_same
  · have : (p :: rest).length ≤ s.cursor.rest.length := by
      rw [← start, ← here.rest_eq]
      exact (List.dropWhile_suffix _).length_le
    rw [List.length_cons] at this
    omega
  · have goesOn : t.isCutOff = false := by simp [isCutOff, cutOff, sameBehind, reached.isWhole]
    rw [run, next_eq, taken]
    simp only [bind, Except.bind, goesOn]
    rfl
  · rw [run, next_eq, failed]
    rfl

/-! ### Marks -/

theorem inFlow_eq {s : Lexer} {rest : Text} {tokens : List Token} {depth : Nat}
    (here : At s rest tokens (depth + 1)) : s.inFlow = true := by
  have := here.depth_eq
  cases same : s.outer with
  | nil => simp [same] at this
  | cons _ _ => simp [inFlow, same]

theorem dropCandidate_at {s : Lexer} {rest : Text} {tokens : List Token} {depth : Nat}
    (here : At s rest tokens depth) : s.dropCandidate = .ok { s with candidate := none } := by
  rw [dropCandidate, drop_of_free here.candidate_free]
  rfl

theorem saveCandidate_at {s : Lexer} {rest : Text} {tokens : List Token} {depth : Nat}
    (here : At s rest tokens depth) :
    ∃ candidate, s.saveCandidate = .ok { s with candidate } ∧ IsFree candidate ∧
      (s.keyAllowed = true → candidate = some ⟨s.tokens.size, false, s.cursor⟩) := by
  unfold saveCandidate
  split
  next allowed =>
    refine ⟨some ⟨s.tokens.size, false, s.cursor⟩, ?_, by simp [IsFree], fun _ => rfl⟩
    rw [dropCandidate_at here]
    simp [bind, Except.bind, pure, Except.pure, here.noBlocks]
  next refused =>
    exact ⟨s.candidate, rfl, here.candidate_free, fun allowed => absurd allowed refused⟩

section

variable {s : Lexer} {rest : Text} {tokens : List Token} {depth : Nat}

/-- Where a lexer stands after a mark of one character. -/
theorem rest_mark {c : Cursor} {p : CodePoint} (start : c.rest = p :: rest) :
    (c.advance 1).rest = rest := by
  rw [Cursor.rest_advance, start]
  rfl

theorem settled_le {s : Lexer} (key : KeyCandidate) {outer : List (Option KeyCandidate)}
    (noCandidate : s.candidate = none) (outer_eq : s.outer = some key :: outer)
    (fresh : key.isStale s.cursor = false) : s.settled ≤ key.position := by
  have foldl_le (keys : List KeyCandidate) (n : Nat) : keys.foldl (fun least candidate =>
      if candidate.isStale s.cursor then least else min least candidate.position) n ≤ n := by
    induction keys generalizing n with
    | nil => exact le_rfl
    | cons candidate keys ih =>
      refine (ih _).trans ?_
      dsimp only
      split
      · exact le_rfl
      · exact min_le_left _ _
  rw [settled, noCandidate, outer_eq]
  refine (foldl_le (outer.flatMap Option.toList) _).trans ?_
  dsimp only
  rw [if_neg (by simp [fresh])]
  exact min_le_right _ _

/-- An opening bracket. What stands before it is settled at most. -/
theorem leads_open {p : CodePoint} {token : Token} (here : At s (p :: rest) tokens depth)
    (solid : isGap p = false ∧ isBreak p = false ∧ p ≠ .char '#' ∧ p ≠ Cursor.byteOrderMark)
    (taken : ∀ r : Lexer, r.token p rest = r.openBracket token) :
    ∃ t, Leads s t ∧ At t rest (tokens ++ [token]) (depth + 1) ∧ t.keyAllowed = true ∧
      (s.keyAllowed = true → t.settled ≤ s.tokens.size) := by
  obtain ⟨r, ready⟩ := exists_ready here solid
  obtain ⟨candidate, saved, free, fresh⟩ := saveCandidate_at ready.place
  have after := rest_mark ready.cursor_eq
  refine ⟨{ r with
    tokens := r.tokens.push token, cursor := r.cursor.advance 1, candidate := none,
    outer := candidate :: r.outer, keyAllowed := true }, ready.leads ?_ ?_ rfl, ?_, rfl,
    fun allowed => ?_⟩
  · rw [taken, openBracket, saved]
    rfl
  · rw [after]
  · exact {
      rest_eq := by rw [after]
      tokens_eq := by rw [TokenRow.toList_push, ready.place.tokens_eq]
      depth_eq := by rw [List.length_cons, ready.place.depth_eq]
      noBlocks := ready.place.noBlocks
      candidate_free := isFree_none
      outer_free := fun other member => by
        rcases List.mem_cons.mp member with rfl | member
        · exact free
        · exact ready.place.outer_free other member
      inBound := ready.length_lt (by rw [after])
      isWhole := ready.place.isWhole }
  · obtain rfl := fresh (ready.keyAllowed allowed)
    rw [← ready.tokens_kept]
    refine settled_le ⟨r.tokens.size, false, r.cursor⟩ rfl rfl ?_
    have near : (r.cursor.advance 1).index = r.cursor.index + 1 :=
      Cursor.index_advance (by rw [ready.cursor_eq]; exact Nat.succ_pos _)
    have sameLine : (r.cursor.advance 1).line = r.cursor.line :=
      Cursor.line_advance (by rw [ready.cursor_eq]; simpa using solid.2.1)
    simp [KeyCandidate.isStale, near, sameLine]

/-- A closing bracket. -/
theorem leads_close {p : CodePoint} {token : Token} (here : At s (p :: rest) tokens (depth + 1))
    (solid : isGap p = false ∧ isBreak p = false ∧ p ≠ .char '#' ∧ p ≠ Cursor.byteOrderMark)
    (taken : ∀ r : Lexer, r.token p rest = r.closeBracket token) :
    ∃ t, Leads s t ∧ At t rest (tokens ++ [token]) depth := by
  obtain ⟨r, ready⟩ := exists_ready here solid
  have after := rest_mark ready.cursor_eq
  obtain ⟨candidate, outer, same⟩ := List.exists_cons_of_length_eq_add_one ready.place.depth_eq
  have free := ready.place.outer_free
  rw [same] at free
  refine ⟨{ r with
    tokens := r.tokens.push token, cursor := r.cursor.advance 1, candidate, outer,
    keyAllowed := false }, ready.leads ?_ ?_ rfl, ?_⟩
  · rw [taken, closeBracket, dropCandidate_at ready.place]
    simp only [bind, Except.bind, same]
    rfl
  · rw [after]
  · exact {
      rest_eq := by rw [after]
      tokens_eq := by rw [TokenRow.toList_push, ready.place.tokens_eq]
      depth_eq := by
        have := ready.place.depth_eq
        rw [same, List.length_cons] at this
        exact Nat.succ.inj this
      noBlocks := ready.place.noBlocks
      candidate_free := free candidate List.mem_cons_self
      outer_free := fun other member => free other (List.mem_cons_of_mem _ member)
      inBound := ready.length_lt (by rw [after])
      isWhole := ready.place.isWhole }

/-- The comma between items. -/
theorem leads_separator (here : At s (.char ',' :: rest) tokens depth) :
    ∃ t, Leads s t ∧ At t rest (tokens ++ [.separator]) depth ∧ t.keyAllowed = true := by
  obtain ⟨r, ready⟩ := exists_ready here (by decide)
  have after := rest_mark ready.cursor_eq
  have taken : r.token (.char ',') rest = r.separator := by
    simp [Lexer.token, show startsWithMark "---" (.char ',' :: rest) = false from rfl,
      show startsWithMark "..." (.char ',' :: rest) = false from rfl]
  refine ⟨{ r with
    tokens := r.tokens.push .separator, cursor := r.cursor.advance 1, candidate := none,
    keyAllowed := true }, ready.leads ?_ ?_ rfl, ?_, rfl⟩
  · rw [taken, separator, dropCandidate_at ready.place]
    rfl
  · rw [after]
  · exact { ready.place with
      rest_eq := by rw [after]
      tokens_eq := by rw [TokenRow.toList_push, ready.place.tokens_eq]
      candidate_free := isFree_none
      inBound := ready.length_lt (by rw [after])
      isWhole := ready.place.isWhole }

/-! ### Scalars -/

open Json.Literal (ascii asciiPoint)

theorem token_quote (r : Lexer) (rest : Text) : r.token (.char '"') rest = r.quoted .double := by
  simp [Lexer.token, show startsWithMark "---" (.char '"' :: rest) = false from rfl,
    show startsWithMark "..." (.char '"' :: rest) = false from rfl]

/-- A literal is a scalar that is not plain. Where a key may stand it is a candidate for one, which
is as old as the literal is long. -/
theorem leads_literal {t : Text} (here : At s (ascii t ++ rest) tokens depth) :
    ∃ u, Leads s u ∧ At u rest (tokens ++ [.scalar t.units false]) depth ∧ u.cursor.rest = rest ∧
      (s.keyAllowed = true → ∃ key, u.candidate = some key ∧ key.position = tokens.length ∧
        key.place.line = u.cursor.line ∧
        u.cursor.index = key.place.index + (ascii t).length) := by
  obtain ⟨r, ready⟩ := exists_ready here (by decide)
  obtain ⟨candidate, saved, free, fresh⟩ := saveCandidate_at ready.place
  have start : r.cursor.rest = ascii t ++ rest := ready.cursor_eq
  have after : (r.cursor.advance (ascii t).length).rest = rest := Cursor.rest_advance_append start
  have shorter : rest.length ≤ (t.flatMap asciiPoint ++ [.char '"'] ++ rest : Text).length := by
    rw [List.length_append]
    omega
  have read := Quoted.read_ascii start ready.place.inBound.le
  refine ⟨{ r with
    tokens := r.tokens.push (.scalar t.units false),
    cursor := r.cursor.advance (ascii t).length, candidate, keyAllowed := false },
    ready.leads ?_ ?_ rfl, ?_, after, fun allowed =>
      ⟨_, fresh (ready.keyAllowed allowed), ?_, ?_, ?_⟩⟩
  · rw [token_quote, quoted, content, saved]
    simp only [bind, Except.bind, ready.place.cutOff_eq_false, read]
    rfl
  · rw [after]
    exact shorter
  · exact { ready.place with
      rest_eq := by rw [after]
      tokens_eq := by rw [TokenRow.toList_push, ready.place.tokens_eq]
      candidate_free := free
      inBound := by
        rw [after]
        exact ready.length_lt shorter }
  · rw [← ready.place.tokens_eq, TokenRow.length_toList]
  · refine (Cursor.line_advance fun p member => ?_).symm
    rw [start, List.take_left] at member
    obtain ⟨low, high⟩ := Json.Literal.isPrintable_ascii t p member
    exact isBreak_eq_false low (by omega)
  · refine Cursor.index_advance ?_
    rw [start, List.length_append]
    omega

theorem token_colon {r : Lexer} (inFlow : r.inFlow = true) (rest : Text) :
    r.token (.char ':') rest = r.value := by
  simp [Lexer.token, show startsWithMark "---" (.char ':' :: rest) = false from rfl,
    show startsWithMark "..." (.char ':' :: rest) = false from rfl, standsAlone, inFlow]

/-- A literal before a colon is a key, if it is not too long for one. -/
theorem leads_key {t : Text} (here : At s (ascii t ++ .char ':' :: rest) tokens (depth + 1))
    (allowed : s.keyAllowed = true) (short : (ascii t).length ≤ 1024) :
    ∃ u, Leads s u ∧ At u rest (tokens ++ [.key, .scalar t.units false, .value]) (depth + 1) := by
  obtain ⟨u, leads, place, exact, candidate⟩ := leads_literal here
  obtain ⟨key, held, position, line, index⟩ := candidate allowed
  obtain ⟨r, ready⟩ := exists_ready place (by decide)
  have cursor_same := ready.cursor_kept exact
  have fresh : key.isStale r.cursor = false := by
    rw [KeyCandidate.isStale, cursor_same, line, index]
    simp
    omega
  have kept : r.candidate = some key := by
    rw [ready.candidate_eq exact, Option.mem_def.mp held, Option.filter_some, fresh]
    rfl
  have inFlow := inFlow_eq ready.place
  have after := rest_mark ready.cursor_eq
  have row := ready.place.tokens_eq
  refine ⟨{ r with
    tokens := (r.tokens.insert key.position .key).push .value, cursor := r.cursor.advance 1,
    candidate := none, keyAllowed := false }, leads.trans (ready.leads ?_ ?_ rfl), ?_⟩
  · rw [token_colon inFlow, value, kept]
    have inFlow' : (r.insert key.position .key).inFlow = true := inFlow
    simp only [inFlow', if_true]
    rfl
  · rw [after]
  · exact { ready.place with
      rest_eq := by rw [after]
      tokens_eq := by
        rw [TokenRow.toList_push, position, TokenRow.toList_insert row, List.append_assoc]
        rfl
      candidate_free := isFree_none
      inBound := ready.length_lt (by rw [after])
      isWhole := ready.place.isWhole }

/-- A literal that is too long for a key leaves the colon after it alone. -/
theorem leads_longKey {t : Text} (here : At s (ascii t ++ .char ':' :: rest) tokens (depth + 1))
    (allowed : s.keyAllowed = true) (long : 1024 < (ascii t).length) :
    ∃ u, Leads s u ∧ At u rest (tokens ++ [.scalar t.units false, .value]) (depth + 1) := by
  obtain ⟨u, leads, place, exact, candidate⟩ := leads_literal here
  obtain ⟨key, held, -, -, index⟩ := candidate allowed
  obtain ⟨r, ready⟩ := exists_ready place (by decide)
  have stale : key.isStale r.cursor = true := by
    rw [KeyCandidate.isStale, ready.cursor_kept exact, index]
    simp
    omega
  have dropped : r.candidate = none := by
    rw [ready.candidate_eq exact, Option.mem_def.mp held, Option.filter_some, stale]
    rfl
  have inFlow := inFlow_eq ready.place
  have after := rest_mark ready.cursor_eq
  refine ⟨{ r with
    tokens := r.tokens.push .value, cursor := r.cursor.advance 1, keyAllowed := false },
    leads.trans (ready.leads ?_ ?_ rfl), ?_⟩
  · rw [token_colon inFlow, value, dropped]
    simp only [beginBlockHere, inFlow, if_true, bind, Except.bind]
    simp [pure, Except.pure, allowKey, mark, push, dropped]
  · rw [after]
  · exact { ready.place with
      rest_eq := by rw [after]
      tokens_eq := by
        rw [TokenRow.toList_push, ready.place.tokens_eq, List.append_assoc]
        rfl
      inBound := ready.length_lt (by rw [after])
      isWhole := ready.place.isWhole }

/-- A word that is read as a plain scalar wherever it stands. -/
structure IsWord (word : Text) : Prop where
  parts : ∀ p ∈ word, Plain.IsPart p
  taken : ∃ p others, word = p :: others ∧
    (isGap p = false ∧ isBreak p = false ∧ p ≠ .char '#' ∧ p ≠ Cursor.byteOrderMark) ∧
    ∀ (r : Lexer) (rest : Text), r.token p (others ++ rest) = r.plain

/-- A word is a plain scalar where it ends the text or stands before a mark in brackets. -/
theorem leads_word {word : Text} (isWord : IsWord word) (here : At s (word ++ rest) tokens depth)
    (ends : rest = [] ∨ 0 < depth ∧ Plain.StartsWithMark rest) :
    ∃ u, Leads s u ∧ At u rest (tokens ++ [.scalar word true]) depth := by
  obtain ⟨p, others, rfl, solid, taken⟩ := isWord.taken
  obtain ⟨r, ready⟩ := exists_ready here solid
  obtain ⟨candidate, saved, free, -⟩ := saveCandidate_at ready.place
  have ends' : Plain.Ends r.inFlow rest := by
    refine ends.imp_right fun ⟨positive, mark⟩ => ⟨?_, mark⟩
    obtain ⟨depth, rfl⟩ := Nat.exists_eq_succ_of_ne_zero positive.ne'
    exact inFlow_eq ready.place
  have start : r.cursor.rest = (p :: others) ++ rest := ready.cursor_eq
  have inBound := ready.place.inBound
  obtain ⟨endsLine, after, read, same, shorter⟩ :=
    Plain.read_word r.innerColumn start isWord.parts ends' (by omega : 0 < r.bound)
  have shorter' : after.rest.length ≤ (others ++ rest).length := by
    rw [List.length_append]
    omega
  refine ⟨{ r with
    tokens := r.tokens.push (.scalar (p :: others) true), cursor := after, candidate,
    keyAllowed := endsLine }, ready.leads ?_ shorter' rfl, ?_⟩
  · show r.token p (others ++ rest) = _
    rw [taken, plain, saved]
    rw [← ready.place.cutOff_eq_false] at read
    have read' : Plain.read ({ r with candidate } : Lexer).cutOff
        ({ r with candidate } : Lexer).inFlow ({ r with candidate } : Lexer).innerColumn r.bound
          r.cursor = ⟨p :: others, endsLine, after⟩ := read
    simp only [bind, Except.bind, read']
    rfl
  · exact { ready.place with
      rest_eq := same
      tokens_eq := by rw [TokenRow.toList_push, ready.place.tokens_eq]
      candidate_free := free
      inBound := ready.length_lt shorter' }

/-! ### Words -/

/-- A letter or a digit is no mark. -/
theorem isAmong_of_alphanum {c : Char} (alphanum : c.isAlphanum = true) {marks : String}
    (plain : marks.toList.all (fun d => !d.isAlphanum) = true) :
    (CodePoint.char c).isAmong marks = false := by
  rw [Bool.eq_false_iff]
  intro mark
  obtain ⟨d, listed, same⟩ := CodePoint.isAmong_iff.mp mark
  cases same
  simpa [alphanum] using List.all_eq_true.mp plain c listed

theorem solid_of_alphanum {c : Char} (alphanum : c.isAlphanum = true) :
    isGap (.char c) = false ∧ isBreak (.char c) = false ∧ CodePoint.char c ≠ .char '#' ∧
      CodePoint.char c ≠ Cursor.byteOrderMark := by
  refine ⟨?_, isAmong_of_alphanum alphanum (by decide), ?_, ?_⟩
  · rw [isGap, Bool.or_eq_false_iff, beq_eq_false_iff_ne, beq_eq_false_iff_ne]
    constructor
    · rintro ⟨⟩
      cases alphanum
    · rintro ⟨⟩
      cases alphanum
  · rintro ⟨⟩
    cases alphanum
  · rintro ⟨⟩
    revert alphanum
    decide

/-- Where the first character can start nothing else, a plain scalar is read. -/
theorem token_of_alphanum {c : Char} (alphanum : c.isAlphanum = true) (r : Lexer) (rest : Text) :
    r.token (.char c) rest = r.plain := by
  have starts : Plain.starts r.inFlow (.char c :: rest) = true := by
    have noBlank : isBlank (.char c) = false := isAmong_of_alphanum alphanum (by decide)
    have noIndicator : Plain.isIndicator (.char c) = false :=
      isAmong_of_alphanum alphanum (by decide)
    simp [Plain.starts, noBlank, (solid_of_alphanum alphanum).2.1, noIndicator]
  have noDirective : c ≠ '%' := by
    rintro rfl
    cases alphanum
  have noMark : startsWithMark "---" (.char c :: rest) = false := by
    have : c ≠ '-' := by
      rintro rfl
      cases alphanum
    simp [startsWithMark, Text.ofString, List.isPrefixOf, this.symm]
  have noMark' : startsWithMark "..." (.char c :: rest) = false := by
    have : c ≠ '.' := by
      rintro rfl
      cases alphanum
    simp [startsWithMark, Text.ofString, List.isPrefixOf, this.symm]
  simp only [Lexer.token, noDirective, noMark, noMark', starts, Bool.false_eq_true, and_false,
    if_false, if_true]
  split <;> first
    | rfl
    | cases alphanum

theorem token_minus {c : Char} (alphanum : c.isAlphanum = true) (r : Lexer) (rest : Text) :
    r.token (.char '-') (.char c :: rest) = r.plain := by
  have noBlank : isBlank (.char c) = false := isAmong_of_alphanum alphanum (by decide)
  have goesOn : endsWord (.char c :: rest) = false := by
    rw [endsWord, noBlank, (solid_of_alphanum alphanum).2.1]
    rfl
  have starts : Plain.starts r.inFlow (.char '-' :: .char c :: rest) = true := by
    have indicator : Plain.isIndicator (.char '-') = true := rfl
    have solid : (isBlank (.char '-') || isBreak (.char '-')) = false := rfl
    simp [Plain.starts, solid, indicator, goesOn]
  have noMark : startsWithMark "---" (.char '-' :: .char c :: rest) = false := by
    have : c ≠ '-' := by
      rintro rfl
      cases alphanum
    simp [startsWithMark, Text.ofString, List.isPrefixOf, this.symm]
  have noMark' : startsWithMark "..." (.char '-' :: .char c :: rest) = false := rfl
  simp [Lexer.token, noMark, noMark', starts, goesOn]

/-- A run of letters and digits is a word. -/
theorem isWord_of_alphanum {c : Char} {others : Text} (alphanum : c.isAlphanum = true)
    (parts : ∀ p ∈ (.char c :: others : Text), Plain.IsPart p) : IsWord (.char c :: others) :=
  ⟨parts, .char c, others, rfl, solid_of_alphanum alphanum,
    fun r rest => token_of_alphanum alphanum r (others ++ rest)⟩

theorem isWord_minus_append {t : Text} (numeral : t.IsNumeral) (negative : Bool) :
    IsWord (Binary64.minus negative ++ t) := by
  have parts : ∀ p ∈ Binary64.minus negative ++ t, Plain.IsPart p := fun p member => by
    have := CodePoint.of_isAmong (fun p => decide (Plain.IsPart p))
      (Text.isNumeric_minus_append numeral negative p member) (by decide)
    simpa using this
  obtain ⟨p, rest, rfl, digit⟩ := numeral.startsWithDigit
  obtain ⟨d, small, rfl⟩ := CodePoint.isDigit_iff.mp digit
  have digits : ∀ d < 10, (Nat.digitChar d).isAlphanum = true := by decide
  cases negative with
  | false => exact isWord_of_alphanum (digits d small) parts
  | true =>
    exact ⟨parts, .char '-', _, rfl, by decide, fun r others => token_minus (digits d small) r _⟩

/-! ### The end -/

/-- At the end of the text the tokens are complete. -/
theorem run_of_end (here : At s [] tokens 0) (fuel : Nat) : run (fuel + 1) s = tokens := by
  obtain ⟨r, place, reached, -, -, -, next_eq⟩ :=
    exists_reached here (by simp [StartsSolid, skipped])
  have step : s.next = .ok (.inr { r with candidate := none }) := by
    simp only [next_eq, place, show skipped [] = [] from rfl,
      unwindAll_eq_self reached.noBlocks, dropCandidate_at reached]
    rfl
  rw [run, step]
  exact reached.tokens_eq

/-- Where a whole text leads to its end, its tokens are those on the way. -/
theorem run_of_leads {u : Lexer} (leads : Leads s u) (here : At u [] tokens 0) {fuel : Nat}
    (enough : s.cursor.rest.length < fuel) : run fuel s = tokens := by
  obtain ⟨n, shorter, steps⟩ := leads
  obtain ⟨left, rfl⟩ := Nat.exists_eq_add_of_lt (show n < fuel by omega)
  rw [show n + left + 1 = left + 1 + n by omega, steps, run_of_end here]

end

end Lexer

end PrismaEsdl.Yaml
