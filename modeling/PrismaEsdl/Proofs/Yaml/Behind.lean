import PrismaEsdl.Proofs.Yaml.Defect
import PrismaEsdl.Proofs.Yaml.Stream

/-!
The fault of bytes that write no characters.

Nothing that reads tokens or makes values finds such a fault (`IsOwn`): all faults but this one are
those of the text. So it is met only where such bytes stand behind the text that comes in
(`behind_of_read`), and then they are no text.
-/

namespace PrismaEsdl.Yaml

/-- Whether an outcome is not the fault of bytes behind a text. -/
abbrev IsOwn {α : Type} (outcome : Except Fault α) : Prop :=
  Ensures (· ≠ .undecodable) (fun _ => True) outcome

namespace IsOwn

variable {α β : Type}

theorem ok (a : α) : IsOwn (.ok a) := trivial

theorem malformed : IsOwn (.error .malformed : Except Fault α) := nofun

theorem before (t : Text) : IsOwn (.error (.before t) : Except Fault α) := by
  cases t <;> exact nofun

theorem bind {outcome : Except Fault α} {next : α → Except Fault β} (first : IsOwn outcome)
    (later : ∀ a, IsOwn (next a)) : IsOwn (outcome >>= next) :=
  Ensures.bind first fun a _ => later a

theorem map {f : α → β} {outcome : Except Fault α} (isOwn : IsOwn outcome) :
    IsOwn (f <$> outcome) := by
  cases outcome with
  | ok a => exact trivial
  | error fault => exact isOwn

theorem mapM {f : α → Except Fault β} (each : ∀ a, IsOwn (f a)) :
    ∀ items : List α, IsOwn (items.mapM f)
  | [] => ok []
  | item :: rest => by
    rw [List.mapM_cons]
    exact (each item).bind fun b => (mapM each rest).bind fun others => ok (b :: others)

end IsOwn

theorem isOwn_endOfLine? (c : Cursor) : IsOwn c.endOfLine? := by
  unfold Cursor.endOfLine?
  dsimp only
  split
  · exact .ok _
  · exact .malformed

/-! ### Words with a mark -/

namespace Token

theorem isOwn_name (c : Cursor) : IsOwn (name c) := by
  unfold name
  dsimp only
  split
  · exact .before _
  · split
    · exact .ok _
    · exact .malformed

theorem isOwn_escapedBytes (fuel : Nat) (t : Text) : IsOwn (escapedBytes fuel t) := by
  fun_induction escapedBytes fuel t with
  | case1 fuel high low rest h l _ _ ih => exact ih.bind fun _ => .ok _
  | case2 => exact .malformed
  | case3 => exact .before _
  | case4 => exact .ok _

theorem isOwn_uriCharacters (fuel : Nat) (t : Text) : IsOwn (uriCharacters fuel t) := by
  induction fuel generalizing t with
  | zero => cases t <;> exact .ok _
  | succ fuel ih =>
    unfold uriCharacters
    split
    · rename_i fuel' rest same
      cases same
      refine (isOwn_escapedBytes _ _).bind fun escaped => ?_
      dsimp only
      split
      · exact .before _
      · exact (ih _).bind fun _ => .ok _
    · rename_i fuel' p rest _ same
      cases same
      split
      · exact (ih _).bind fun _ => .ok _
      · exact .ok _
    · exact .ok _

theorem isOwn_uri (t : Text) : IsOwn (uri t) := by
  unfold uri
  split
  · exact isOwn_uriCharacters _ _
  · exact .before _

theorem isOwn_writtenTag (t : Text) : IsOwn (writtenTag t) := by
  unfold writtenTag
  split
  · refine (isOwn_uri _).bind fun written => ?_
    dsimp only
    split
    · exact .ok _
    · exact .before _
  · split
    · exact .ok _
    · dsimp only
      split
      · split
        · exact .malformed
        · exact (isOwn_uri _).bind fun _ => .ok _
      · split
        · split
          · exact .ok _
          · exact .before _
        · exact .before _
  · exact .malformed

theorem isOwn_readTag (c : Cursor) : IsOwn (readTag c) := by
  refine (isOwn_writtenTag _).bind fun written => ?_
  dsimp only
  split
  · exact .ok _
  · exact .malformed

theorem isOwn_number (t : Text) : IsOwn (number t) := by
  unfold number
  dsimp only
  split
  · exact .before _
  · split
    · exact .ok _
    · exact nofun

theorem isOwn_namedDirective (word rest : Text) : IsOwn (namedDirective word rest) := by
  unfold namedDirective
  split
  · refine (isOwn_number _).bind fun major => ?_
    dsimp only
    split
    · refine (isOwn_number _).bind fun minor => ?_
      split
      · exact .ok _
      · exact .malformed
    · exact .before _
  split
  · split
    · refine (isOwn_uri _).bind fun beginning => ?_
      dsimp only
      split
      · exact .ok _
      · exact .malformed
    · exact .before _
    · exact .before _
  · exact .ok _

theorem isOwn_readDirective (c : Cursor) : IsOwn (readDirective c) := by
  unfold readDirective
  dsimp only
  split
  · exact .before _
  · refine (isOwn_namedDirective _ _).bind fun directive => ?_
    exact (isOwn_endOfLine? _).bind fun _ => .ok _

end Token

/-! ### Scalars -/

namespace Quoted

variable (cutOff : Bool)

theorem isOwn_emptyLines (fuel : Nat) (c : Cursor) : IsOwn (emptyLines cutOff fuel c) := by
  induction fuel generalizing c with
  | zero => exact .malformed
  | succ fuel ih =>
    unfold emptyLines
    split
    · exact nofun
    split
    · exact .malformed
    · dsimp only
      split
      · exact .ok _
      · exact (ih _).bind fun _ => .ok _

theorem isOwn_blanks (fuel : Nat) (c : Cursor) : IsOwn (blanks cutOff fuel c) := by
  unfold blanks
  dsimp only
  split
  · exact .ok _
  · exact (isOwn_emptyLines _ _ _).bind fun _ => .ok _

theorem isOwn_codePoint (n : Nat) : IsOwn (codePoint n) := by
  unfold codePoint
  split
  · split
    · exact .ok _
    · exact nofun
  · exact nofun

theorem isOwn_escape (fuel : Nat) (c : Cursor) : IsOwn (escape cutOff fuel c) := by
  unfold escape
  split
  · exact nofun
  · split
    · exact .ok _
    · split
      · split
        · exact (isOwn_codePoint _).bind fun _ => .ok _
        · exact nofun
      · exact .before _
    · split
      · exact isOwn_emptyLines _ _ _
      · exact .malformed

theorem isOwn_content (quote : Quote) (fuel : Nat) (c : Cursor) :
    IsOwn (content cutOff quote fuel c) := by
  induction fuel generalizing c with
  | zero => exact .malformed
  | succ fuel ih =>
    unfold content
    split
    · exact nofun
    split
    · exact (isOwn_blanks _ _ _).bind fun _ => (ih _).bind fun _ => .ok _
    split
    · exact (isOwn_escape _ _ _).bind fun _ => (ih _).bind fun _ => .ok _
    split
    · split
      · exact (ih _).bind fun _ => .ok _
      · exact .ok _
    · exact (ih _).bind fun _ => .ok _

end Quoted

namespace Block

theorem isOwn_increment? (t : Text) : IsOwn (increment? t) := by
  unfold increment?
  split
  · exact .ok _
  · split
    · exact .ok _
    · exact .malformed
    · exact .ok _

theorem isOwn_header (t : Text) : IsOwn (header t) := by
  unfold header
  split
  · exact (isOwn_increment? _).bind fun _ => .ok _
  · refine (isOwn_increment? _).bind fun _ => ?_
    dsimp only
    split <;> exact .ok _

theorem isOwn_read (folded : Bool) (column fuel : Nat) (c : Cursor) :
    IsOwn (read folded column fuel c) := by
  unfold read
  refine (isOwn_header _).bind fun found => ?_
  dsimp only
  split
  · exact .malformed
  · refine (isOwn_endOfLine? _).bind fun _ => ?_
    split <;> exact .ok _

end Block

/-! ### Tokens -/

theorem isOwn_drop (candidate : Option KeyCandidate) : IsOwn (KeyCandidate.drop candidate) := by
  unfold KeyCandidate.drop
  split
  · split
    · exact .malformed
    · exact .ok _
  · exact .ok _

theorem isOwn_expire (c : Cursor) (candidate : Option KeyCandidate) :
    IsOwn (KeyCandidate.expire c candidate) := by
  unfold KeyCandidate.expire
  split
  · split
    · exact isOwn_drop _
    · exact .ok _
  · exact .ok _

/-- Whether a token can be read. -/
def Token.IsRead : Token → Prop
  | .broken _ => False
  | _ => True

/-- Whether all tokens of a row can be read. -/
def TokenRow.IsRead (row : TokenRow) : Prop := ∀ token ∈ row.reversed, token.IsRead

theorem TokenRow.IsRead.push {row : TokenRow} (isRead : row.IsRead) {token : Token}
    (good : token.IsRead) : (row.push token).IsRead :=
  List.forall_mem_cons.mpr ⟨good, isRead⟩

theorem TokenRow.IsRead.insert {row : TokenRow} (isRead : row.IsRead) (position : Nat)
    (token : Token) (good : token.IsRead) : (row.insert position token).IsRead := by
  intro other member
  rcases List.mem_append.mp member with front | back
  · exact isRead other (List.mem_of_mem_take front)
  · rcases List.mem_cons.mp back with rfl | back
    · exact good
    · exact isRead other (List.mem_of_mem_drop back)

namespace Lexer

/-- A lexer of a text with something behind it, the tokens of which can all be read so far. -/
structure Reads (behind : Option Fault) (s : Lexer) : Prop where
  behind_eq : s.behind = behind
  tokens : s.tokens.IsRead

/-- Whether a step goes on with tokens that can be read, or finds a fault of the text. -/
abbrev Steps (behind : Option Fault) (step : Step) : Prop :=
  Ensures (· ≠ .undecodable) (Reads behind) step

variable {behind : Option Fault} {s : Lexer}

theorem Steps.bind {step : Step} {next : Lexer → Step} (first : Steps behind step)
    (later : ∀ s : Lexer, s.Reads behind → Steps behind (next s)) :
    Steps behind (step >>= next) :=
  Ensures.bind first later

theorem Steps.of_isOwn {α : Type} {outcome : Except Fault α} {next : α → Step}
    (isOwn : IsOwn outcome) (later : ∀ a, Steps behind (next a)) :
    Steps behind (outcome >>= next) :=
  Ensures.bind isOwn fun a _ => later a

theorem Steps.malformed : Steps behind (.error .malformed) := nofun

theorem Reads.push (reads : s.Reads behind) (token : Token) (good : token.IsRead) :
    (s.push token).Reads behind := ⟨reads.behind_eq, reads.tokens.push good⟩

/-- The candidates, the brackets around them and the place do not matter. -/
theorem Reads.taken {s' : Lexer} (reads : s.Reads behind) (behind_eq : s'.behind = s.behind)
    (tokens : s'.tokens = s.tokens) : Steps behind (.ok s') :=
  ⟨behind_eq.trans reads.behind_eq, tokens ▸ reads.tokens⟩

theorem steps_dropCandidate (reads : s.Reads behind) : Steps behind s.dropCandidate :=
  .of_isOwn (isOwn_drop _) fun _ => reads.taken rfl rfl

theorem steps_expireCandidates (reads : s.Reads behind) : Steps behind s.expireCandidates :=
  .of_isOwn (isOwn_expire _ _) fun _ =>
    .of_isOwn (.mapM (isOwn_expire _) _) fun _ => reads.taken rfl rfl

theorem steps_saveCandidate (reads : s.Reads behind) : Steps behind s.saveCandidate := by
  unfold saveCandidate
  split
  · exact Steps.bind (steps_dropCandidate reads) fun _ reads => reads.taken rfl rfl
  · exact reads

theorem isRead_endBlocks (column : Nat) (blocks : List Nat) {row : TokenRow}
    (isRead : row.IsRead) : (endBlocks column blocks row).2.IsRead := by
  induction blocks generalizing row with
  | nil => exact isRead
  | cons block blocks ih =>
    unfold endBlocks
    split
    · exact ih (isRead.push trivial)
    · exact isRead

theorem Reads.unwind (reads : s.Reads behind) : s.unwind.Reads behind := by
  unfold Lexer.unwind
  split
  · exact reads
  · exact ⟨reads.behind_eq, isRead_endBlocks _ _ reads.tokens⟩

theorem isRead_foldl_blockEnd (blocks : List Nat) {row : TokenRow} (isRead : row.IsRead) :
    (blocks.foldl (fun row _ => row.push .blockEnd) row).IsRead := by
  induction blocks generalizing row with
  | nil => exact isRead
  | cons block blocks ih => exact ih (isRead.push trivial)

theorem Reads.unwindAll (reads : s.Reads behind) : s.unwindAll.Reads behind := by
  unfold Lexer.unwindAll
  split
  · exact reads
  · exact ⟨reads.behind_eq, isRead_foldl_blockEnd _ reads.tokens⟩

theorem Reads.beginBlock (reads : s.Reads behind) (column position : Nat) (token : Token)
    (good : token.IsRead) : (s.beginBlock column position token).Reads behind := by
  unfold Lexer.beginBlock
  split
  · exact ⟨reads.behind_eq, reads.tokens.insert position token good⟩
  · exact reads

theorem steps_beginBlockHere (reads : s.Reads behind) {token : Token} (good : token.IsRead) :
    Steps behind (s.beginBlockHere token) := by
  unfold beginBlockHere
  split
  · exact reads
  split
  · exact reads.beginBlock _ _ token good
  · exact .malformed

theorem steps_documentMark (reads : s.Reads behind) {token : Token} (good : token.IsRead) :
    Steps behind (s.documentMark token) :=
  Steps.bind (steps_dropCandidate reads.unwindAll) fun _ reads =>
    (reads.push token good).taken rfl rfl

theorem steps_directive (reads : s.Reads behind) : Steps behind s.directive :=
  Steps.bind (steps_dropCandidate reads.unwindAll) fun _ reads =>
    .of_isOwn (Token.isOwn_readDirective _) fun found =>
      (reads.push (.directive found.1) trivial).taken rfl rfl

theorem steps_openBracket (reads : s.Reads behind) {token : Token} (good : token.IsRead) :
    Steps behind (s.openBracket token) :=
  Steps.bind (steps_saveCandidate reads) fun _ reads => (reads.push token good).taken rfl rfl

theorem steps_closeBracket (reads : s.Reads behind) {token : Token} (good : token.IsRead) :
    Steps behind (s.closeBracket token) := by
  refine Steps.bind (steps_dropCandidate reads) fun s reads => ?_
  dsimp only
  split
  · exact .malformed
  · exact (reads.push token good).taken rfl rfl

theorem steps_separator (reads : s.Reads behind) : Steps behind s.separator :=
  Steps.bind (steps_dropCandidate reads) fun _ reads =>
    (reads.push .separator trivial).taken rfl rfl

theorem steps_entry (reads : s.Reads behind) : Steps behind s.entry :=
  Steps.bind (steps_beginBlockHere reads trivial) fun _ reads =>
    Steps.bind (steps_dropCandidate reads) fun _ reads => (reads.push .entry trivial).taken rfl rfl

theorem steps_key (reads : s.Reads behind) : Steps behind s.key :=
  Steps.bind (steps_beginBlockHere reads trivial) fun _ reads =>
    Steps.bind (steps_dropCandidate reads) fun _ reads => (reads.push .key trivial).taken rfl rfl

theorem steps_value (reads : s.Reads behind) : Steps behind s.value := by
  unfold value
  split
  · rename_i candidate _
    have inserted : (s.insert candidate.position .key).Reads behind :=
      ⟨reads.behind_eq, reads.tokens.insert _ .key trivial⟩
    dsimp only
    split
    · exact (inserted.push .value trivial).taken rfl rfl
    · exact ((inserted.beginBlock _ _ .blockMapping trivial).push .value trivial).taken rfl rfl
  · exact Steps.bind (steps_beginBlockHere reads trivial)
      fun _ reads => (reads.push .value trivial).taken rfl rfl

theorem steps_content (reads : s.Reads behind) {read : Cursor → Except Fault (Token × Cursor)}
    (good : ∀ c, Ensures (· ≠ .undecodable) (fun made => made.1.IsRead) (read c)) :
    Steps behind (s.content read) :=
  Steps.bind (steps_saveCandidate reads) fun s reads =>
    Ensures.bind (good s.cursor) fun _ made => (reads.push _ made).taken rfl rfl

/-- A token made of what is read of a text can be read itself. -/
theorem ensures_made {α : Type} {outcome : Except Fault (α × Cursor)} (isOwn : IsOwn outcome)
    (make : α → Token) (good : ∀ a, (make a).IsRead) :
    Ensures (· ≠ .undecodable) (fun made : Token × Cursor => made.1.IsRead)
      (outcome >>= fun read => .ok (make read.1, read.2)) :=
  Ensures.bind isOwn fun read _ => good read.1

theorem steps_quoted (reads : s.Reads behind) (quote : Quoted.Quote) :
    Steps behind (s.quoted quote) :=
  steps_content reads fun _ => ensures_made (Quoted.isOwn_content s.cutOff quote s.bound _)
    (.scalar · false) fun _ => trivial

theorem steps_blockScalar (reads : s.Reads behind) (folded : Bool) :
    Steps behind (s.blockScalar folded) :=
  Steps.bind (steps_dropCandidate reads) fun _ reads =>
    .of_isOwn (Block.isOwn_read _ _ _ _) fun found =>
      (reads.push (.scalar found.1 false) trivial).taken rfl rfl

theorem steps_plain (reads : s.Reads behind) : Steps behind s.plain :=
  Steps.bind (steps_saveCandidate reads) fun s reads =>
    let scalar := Plain.read s.cutOff s.inFlow s.innerColumn s.bound s.cursor
    (reads.push (.scalar scalar.text true) trivial).taken rfl rfl

theorem steps_token (reads : s.Reads behind) (p : CodePoint) (rest : Text) :
    Steps behind (s.token p rest) := by
  have plain : Steps behind
      (if Plain.starts s.inFlow (p :: rest) then s.plain else .error .malformed) := by
    split
    · exact steps_plain reads
    · exact .malformed
  unfold token
  dsimp only
  split
  · exact plain
  split
  · exact steps_directive reads
  split
  · exact steps_documentMark reads trivial
  split
  · exact steps_documentMark reads trivial
  split
  · exact steps_openBracket reads trivial
  · exact steps_openBracket reads trivial
  · exact steps_closeBracket reads trivial
  · exact steps_closeBracket reads trivial
  · exact steps_separator reads
  · split
    · exact steps_entry reads
    · exact plain
  · split
    · exact steps_key reads
    · exact plain
  · split
    · exact steps_value reads
    · exact plain
  · exact steps_content reads fun _ => ensures_made (Token.isOwn_name _) .alias fun _ => trivial
  · exact steps_content reads fun _ => ensures_made (Token.isOwn_name _) .anchor fun _ => trivial
  · exact steps_content reads fun _ => ensures_made (Token.isOwn_readTag _) .tag fun _ => trivial
  · split
    · exact plain
    · exact steps_blockScalar reads false
  · split
    · exact plain
    · exact steps_blockScalar reads true
  · exact steps_quoted reads .single
  · exact steps_quoted reads .double
  · exact plain

/-- No token is read at the last code point of a text. -/
theorem steps_lastPoint (reads : s.Reads behind) (p : CodePoint) :
    Steps behind (s.lastPoint p) := by
  have unfinished : Steps behind (.error .unfinished) := nofun
  unfold lastPoint
  split
  · exact Steps.bind (steps_dropCandidate reads) fun _ _ => unfinished
  · exact unfinished

/-- The next step keeps what is behind the text, and finds none of its faults. -/
theorem ensures_next (reads : s.Reads behind) :
    Ensures (· ≠ .undecodable) (Sum.elim (Reads behind) (Reads behind)) s.next := by
  unfold next
  refine Ensures.bind (steps_expireCandidates reads) fun s reads => ?_
  have skipped : s.toToken.Reads behind := ⟨reads.behind_eq, reads.tokens⟩
  dsimp only
  split
  · exact nofun
  refine Ensures.bind (steps_expireCandidates skipped) fun s reads => ?_
  have unwound := reads.unwind
  split
  · exact nofun
  split
  · exact Ensures.bind (steps_dropCandidate unwound.unwindAll) fun _ reads => reads
  · rename_i p rest _
    have taken : Steps behind
        (if s.unwind.cutOff && rest.isEmpty then s.unwind.lastPoint p
          else s.unwind.token p rest) := by
      split
      · exact steps_lastPoint unwound p
      · exact steps_token unwound p rest
    refine Ensures.bind taken fun s reads => ?_
    split
    · exact nofun
    · exact reads

/-- A token that cannot be read has a fault of the text, or the one of what comes behind it. -/
theorem broken_mem_run (fuel : Nat) : ∀ {s : Lexer}, s.Reads behind →
    ∀ {fault}, .broken fault ∈ run fuel s → fault = .undecodable → behind = some fault := by
  have none {s : Lexer} (reads : s.Reads behind) {fault : Fault} :
      .broken fault ∉ s.tokens.toList :=
    fun member => reads.tokens _ (List.mem_reverse.mp member)
  induction fuel with
  | zero => exact fun reads _ member => absurd member (none reads)
  | succ fuel ih =>
    intro s reads fault member undecodable
    have ensured := ensures_next reads
    unfold run at member
    split at member
    · rename_i found stopped
      rw [stopped] at ensured
      rcases List.mem_append.mp member with settled | last
      · exact absurd (List.mem_of_mem_take settled) (none reads)
      · cases List.mem_singleton.mp last
        rw [← reads.behind_eq]
        cases found with
        | unfinished =>
          unfold faultOf at undecodable ⊢
          dsimp only at undecodable ⊢
          cases at_end : s.behind with
          | none =>
            rw [at_end] at undecodable
            cases undecodable
          | some fault => rfl
        | undecodable => exact absurd rfl ensured
        | _ => cases undecodable
    · rename_i further stepped
      rw [stepped] at ensured
      exact ih ensured member undecodable
    · rename_i last stepped
      rw [stepped] at ensured
      exact absurd member (none ensured)

end Lexer

/-! ### Values -/

namespace Scalar

theorem isOwn_orInvalid {α : Type} (found : Option α) : IsOwn (orInvalid found) := by
  cases found with
  | none => exact nofun
  | some value => exact .ok _

theorem isOwn_int (t : Text) : IsOwn (int t) := by
  have magnitude (t : Text) : IsOwn (magnitude t) := by
    unfold magnitude
    split
    · exact nofun
    · exact .ok _
    · exact isOwn_orInvalid _
    · exact isOwn_orInvalid _
    · exact isOwn_orInvalid _
    · exact (isOwn_orInvalid _).bind fun _ => .ok _
  exact (magnitude _).bind fun _ => .ok _

theorem isOwn_sexagesimal (parts : List Binary64) : IsOwn (sexagesimal parts) := by
  refine Ensures.foldlM (fun part _ total _ => ?_) _ trivial
  dsimp only
  split
  · exact nofun
  · exact trivial

theorem isOwn_float (t : Text) : IsOwn (float t) := by
  have magnitude (t : Text) : IsOwn (floatMagnitude t) := by
    unfold floatMagnitude
    split
    · exact .ok _
    split
    · exact .ok _
    split
    · exact .ok _
    · exact isOwn_sexagesimal _
    · exact nofun
  unfold float
  dsimp only
  split
  · exact nofun
  · exact (magnitude _).bind fun _ => .ok _

theorem isOwn_value (kind : Kind) (t : Text) : IsOwn (value kind t) := by
  cases kind with
  | null | text => exact .ok _
  | bool =>
    refine IsOwn.map ?_
    unfold bool
    split
    · exact .ok _
    · exact nofun
  | int => exact (isOwn_int t).map
  | float => exact (isOwn_float t).map
  | moment =>
    change IsOwn (moment t)
    unfold moment
    split
    · exact isOwn_orInvalid _
    · exact nofun
  | bytes =>
    refine IsOwn.map ?_
    unfold bytes
    split
    · split
      · exact .ok _
      · exact .malformed
    · exact .malformed
  | _ => exact .malformed

end Scalar

/-- Bytes that write no characters stop the reading of a text only where they stand behind it. -/
theorem behind_of_read {limit : Nat} {stream : Stream}
    (fails : read limit stream = .error .undecodable) : stream.behind = some .undecodable := by
  have ownForm : ¬ Fault.IsOfForm .undecodable := (·.elim nofun nofun)
  cases read_defect fails with
  | ofForm isOfForm => exact absurd isOfForm ownForm
  | token broken =>
    have reads : (Lexer.start stream).Reads stream.behind := ⟨rfl, nofun⟩
    exact Lexer.broken_mem_run _ reads broken rfl
  | @node g root _ nodes defect =>
    cases defect with
    | ofForm isOfForm => exact absurd isOfForm ownForm
    | @scalar n m content _ written stands valueless =>
      have isOwn := Scalar.isOwn_value (g.node n).kind content
      rw [valueless] at isOwn
      exact absurd rfl isOwn

end PrismaEsdl.Yaml
