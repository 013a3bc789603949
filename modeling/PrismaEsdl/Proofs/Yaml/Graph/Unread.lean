import PrismaEsdl.Proofs.Yaml.Guards
import PrismaEsdl.Yaml.Graph.Reading

/-!
What may stop the reading of nodes.

Reading looks at nothing but the tokens of the text, so it stops because they do not fit, because
nodes contain each other too deeply, or because a token cannot be read itself (`Unread`). Each of
the functions that read parts of a document keeps to that, if those do that it calls
(`ReadsWithin`), and so they all do (`readsWithin`).
-/

namespace PrismaEsdl.Yaml

namespace Graph

open Reader

variable {all tokens rest : List Token} {here : Surroundings} {anchor : Option Text}

/-- Why nodes cannot be read from tokens: they do not fit, or one of them cannot be read itself. -/
def Unread (all : List Token) (fault : Fault) : Prop := fault.IsOfForm ∨ .broken fault ∈ all

/-- What is kept while nodes are read, and what may be wrong. -/
abbrev Reads (all : List Token) {α : Type} (x : Reader α) : Prop :=
  Guards (Unread all) (fun s => s.tokens ⊆ all) x

theorem tail_subset {token : Token} (within : token :: rest ⊆ all) : rest ⊆ all :=
  fun _ member => within (.tail _ member)

theorem unread_unexpected (within : tokens ⊆ all) : Unread all (unexpected tokens) := by
  unfold unexpected
  split
  · exact .inr (within (.head _))
  · exact .inl (.inl rfl)

theorem reads_malformed {α : Type} : Reads all (throw .malformed : Reader α) :=
  .throw (.inl (.inl rfl))

theorem reads_unexpected {α : Type} (within : tokens ⊆ all) :
    Reads all (throw (unexpected tokens) : Reader α) :=
  .throw (unread_unexpected within)

theorem reads_tokens_bind {α : Type} {f : List Token → Reader α}
    (next : ∀ tokens, tokens ⊆ all → Reads all (f tokens)) :
    Reads all (Reader.tokens >>= f) :=
  fun s within => next s.tokens within s within

theorem reads_goOn_bind {α : Type} {f : Unit → Reader α} (within : tokens ⊆ all)
    (next : Reads all (f ())) : Reads all (goOn tokens >>= f) :=
  .bind (.modify fun _ _ => within) fun _ => next

theorem reads_newNode (node : Node) : Reads all (newNode node) :=
  .modifyGet fun _ within => within

theorem reads_find? (name : Text) : Reads all (find? name) :=
  .get_bind fun _ _ => .pure _

theorem reads_name (anchor : Option Text) (number : Nat) : Reads all (name anchor number) := by
  cases anchor with
  | some anchor => exact .modify fun _ within => within
  | none => exact .pure ()

theorem reads_aliased (name : Text) : Reads all (aliased here name) := by
  unfold aliased
  refine .bind (reads_find? name) fun found => ?_
  split
  · exact reads_malformed
  · dsimp only
    split
    · exact .bind (.modify fun _ within => within) fun _ => .pure _
    · exact .pure _

theorem reads_scalar (tag : Tag) (content : Text) (plain : Bool) :
    Reads all (scalar anchor tag content plain) :=
  .bind (reads_newNode _) fun number => .bind (reads_name anchor number) fun _ => .pure number

theorem ensures_inside (number : Nat) :
    Ensures (Unread all) (fun _ => True) (here.inside number) := by
  unfold Surroundings.inside
  split
  · trivial
  · exact .inl (.inr rfl)

theorem reads_collection {kind : Kind} {content : Surroundings → Reader Form}
    (reads : ∀ here, Reads all (content here)) :
    Reads all (collection here anchor kind content) := by
  unfold collection
  refine .bind (reads_newNode _) fun number => .bind (reads_name anchor number) fun _ => ?_
  refine .lift_bind (ensures_inside number) fun inner _ => ?_
  exact .bind (reads inner) fun form => .bind (.modify fun _ within => within) fun _ => .pure number

theorem ensures_ofWritten (handles : Handles) (written : WrittenTag) :
    Ensures (Unread all) (fun _ => True) (Tag.ofWritten handles written) := by
  have name : Ensures (Unread all) (fun _ => True) (handles.name written) := by
    unfold Handles.name
    split
    · trivial
    · split
      · trivial
      · exact .inl (.inl rfl)
  exact name.bind fun _ _ => trivial

theorem ensures_properties (handles : Handles) (within : tokens ⊆ all) :
    Ensures (Unread all) (fun found => found.2.2 ⊆ all) (properties handles tokens) := by
  unfold properties
  split
  · exact (ensures_ofWritten handles _).bind fun _ _ => tail_subset (tail_subset within)
  · exact tail_subset within
  · exact (ensures_ofWritten handles _).bind fun _ _ => tail_subset (tail_subset within)
  · exact .inr (within (.tail _ (.head _)))
  · exact (ensures_ofWritten handles _).bind fun _ _ => tail_subset within
  · exact within

/-- What is promised of reading in a number of steps. -/
structure ReadsWithin (all : List Token) (fuel : Nat) : Prop where
  read (here : Surroundings) (place : Place) : Reads all (read here place fuel)
  readOptional (here : Surroundings) (place : Place) : Reads all (readOptional here place fuel)
  readValue (here : Surroundings) (place : Place) : Reads all (readValue here place fuel)
  readEntry (here : Surroundings) (place : Place) : Reads all (readEntry here place fuel)
  flowItems (here : Surroundings) (first : Bool) : Reads all (flowItems here first fuel)
  flowItem (here : Surroundings) : Reads all (flowItem here fuel)
  flowEntries (here : Surroundings) (first : Bool) : Reads all (flowEntries here first fuel)
  flowEntry (here : Surroundings) : Reads all (flowEntry here fuel)
  blockItems (here : Surroundings) : Reads all (blockItems here fuel)
  bareItems (here : Surroundings) : Reads all (bareItems here fuel)
  blockEntries (here : Surroundings) : Reads all (blockEntries here fuel)

namespace ReadsWithin

variable {fuel : Nat} (within : ReadsWithin all fuel)

include within

theorem read_succ (here : Surroundings) (place : Place) :
    Reads all (Graph.read here place (fuel + 1)) := by
  rw [Graph.read]
  refine reads_tokens_bind fun tokens inAll => ?_
  split
  · exact reads_goOn_bind (tail_subset inAll) (reads_aliased _)
  · refine .lift_bind (ensures_properties here.handles inAll) fun found inAll => ?_
    obtain ⟨anchor, tag, found⟩ := found
    dsimp only at inAll ⊢
    split
    · exact .throw_bind (.inr (inAll (.head _)))
    · split
      case' h_1 =>
        refine .bind (reads_find? _) fun known => ?_
        split
        · exact .throw_bind (.inl (.inl rfl))
      -- The node itself, whether it has a name or not.
      all_goals
        split
        · exact reads_goOn_bind (tail_subset inAll) (reads_scalar tag _ _)
        · exact reads_goOn_bind (tail_subset inAll)
            (reads_collection fun here => .map (within.flowItems here true))
        · exact reads_goOn_bind (tail_subset inAll)
            (reads_collection fun here => .map (within.flowEntries here true))
        · exact reads_goOn_bind (tail_subset inAll)
            (reads_collection fun here => .map (within.blockItems here))
        · exact reads_goOn_bind (tail_subset inAll)
            (reads_collection fun here => .map (within.blockItems here))
        · exact reads_goOn_bind (tail_subset inAll)
            (reads_collection fun here => .map (within.blockEntries here))
        · exact reads_goOn_bind (tail_subset inAll)
            (reads_collection fun here => .map (within.blockEntries here))
        · exact reads_goOn_bind inAll
            (reads_collection fun here => .map (within.bareItems here))
        · exact .ite (.throw_bind (.inl (.inl rfl))) (reads_goOn_bind inAll (reads_scalar tag _ _))

theorem readOptional_succ (here : Surroundings) (place : Place) :
    Reads all (Graph.readOptional here place (fuel + 1)) := by
  rw [Graph.readOptional]
  refine reads_tokens_bind fun tokens inAll => ?_
  split
  · exact reads_newNode _
  · exact within.read here place

theorem readValue_succ (here : Surroundings) (place : Place) :
    Reads all (Graph.readValue here place (fuel + 1)) := by
  rw [Graph.readValue]
  refine reads_tokens_bind fun tokens inAll => ?_
  split
  · exact reads_goOn_bind (tail_subset inAll) (within.readOptional here place)
  · exact reads_newNode _

theorem readEntry_succ (here : Surroundings) (place : Place) :
    Reads all (Graph.readEntry here place (fuel + 1)) := by
  rw [Graph.readEntry]
  exact .bind (within.readOptional here place) fun _ =>
    .bind (within.readValue here place) fun _ => .pure _

theorem flowItems_succ (here : Surroundings) (first : Bool) :
    Reads all (Graph.flowItems here first (fuel + 1)) := by
  have items : Reads all (do
      let item ← Graph.flowItem here fuel
      return item :: (← Graph.flowItems here false fuel)) :=
    .bind (within.flowItem here) fun _ => .bind (within.flowItems here false) fun _ => .pure _
  rw [Graph.flowItems]
  refine reads_tokens_bind fun tokens inAll => ?_
  split
  · exact reads_goOn_bind (tail_subset inAll) (.pure [])
  · exact reads_goOn_bind (tail_subset (tail_subset inAll)) (.pure [])
  · exact reads_goOn_bind inAll items
  · exact reads_goOn_bind (tail_subset inAll) items
  · exact reads_unexpected inAll

theorem flowItem_succ (here : Surroundings) : Reads all (Graph.flowItem here (fuel + 1)) := by
  rw [Graph.flowItem]
  refine reads_tokens_bind fun tokens inAll => ?_
  split
  · refine reads_goOn_bind (tail_subset inAll) (reads_collection fun here => ?_)
    exact .bind (within.readEntry here .flow) fun _ => .pure _
  · exact within.read here .flow

theorem flowEntries_succ (here : Surroundings) (first : Bool) :
    Reads all (Graph.flowEntries here first (fuel + 1)) := by
  have entries : Reads all (do
      let entry ← Graph.flowEntry here fuel
      return entry :: (← Graph.flowEntries here false fuel)) :=
    .bind (within.flowEntry here) fun _ => .bind (within.flowEntries here false) fun _ => .pure _
  rw [Graph.flowEntries]
  refine reads_tokens_bind fun tokens inAll => ?_
  split
  · exact reads_goOn_bind (tail_subset inAll) (.pure [])
  · exact reads_goOn_bind (tail_subset (tail_subset inAll)) (.pure [])
  · exact reads_goOn_bind inAll entries
  · exact reads_goOn_bind (tail_subset inAll) entries
  · exact reads_unexpected inAll

theorem flowEntry_succ (here : Surroundings) : Reads all (Graph.flowEntry here (fuel + 1)) := by
  rw [Graph.flowEntry]
  refine reads_tokens_bind fun tokens inAll => ?_
  split
  · exact reads_goOn_bind (tail_subset inAll) (within.readEntry here .flow)
  · exact .bind (within.read here .flow) fun _ => .bind (reads_newNode _) fun _ => .pure _

theorem blockItems_succ (here : Surroundings) : Reads all (Graph.blockItems here (fuel + 1)) := by
  rw [Graph.blockItems]
  refine reads_tokens_bind fun tokens inAll => ?_
  split
  · exact reads_goOn_bind (tail_subset inAll) <| .bind (within.readOptional here .block) fun _ =>
      .bind (within.blockItems here) fun _ => .pure _
  · exact reads_goOn_bind (tail_subset inAll) (.pure [])
  · exact reads_unexpected inAll

theorem bareItems_succ (here : Surroundings) : Reads all (Graph.bareItems here (fuel + 1)) := by
  rw [Graph.bareItems]
  refine reads_tokens_bind fun tokens inAll => ?_
  split
  · exact reads_goOn_bind (tail_subset inAll) <| .bind (within.readOptional here .block) fun _ =>
      .bind (within.bareItems here) fun _ => .pure _
  · exact .pure []

theorem blockEntries_succ (here : Surroundings) :
    Reads all (Graph.blockEntries here (fuel + 1)) := by
  rw [Graph.blockEntries]
  refine reads_tokens_bind fun tokens inAll => ?_
  split
  · exact reads_goOn_bind (tail_subset inAll) <| .bind (within.readEntry here .entry) fun _ =>
      .bind (within.blockEntries here) fun _ => .pure _
  · exact reads_goOn_bind (tail_subset inAll) (.pure [])
  · exact reads_unexpected inAll

end ReadsWithin

/-- Whatever stops the reading of a node is wrong with the tokens. -/
theorem readsWithin (all : List Token) (fuel : Nat) : ReadsWithin all fuel := by
  induction fuel with
  | zero =>
    constructor
    all_goals
      intros
      exact reads_malformed
  | succ fuel within =>
    exact ⟨within.read_succ, within.readOptional_succ, within.readValue_succ,
      within.readEntry_succ, within.flowItems_succ, within.flowItem_succ, within.flowEntries_succ,
      within.flowEntry_succ, within.blockItems_succ, within.bareItems_succ,
      within.blockEntries_succ⟩

/-! ### Documents -/

theorem split_subset (tokens : List Token) : (directives.split tokens).2 ⊆ tokens := by
  induction tokens with
  | nil => exact fun _ => id
  | cons token rest ih =>
    cases token with
    | directive d => exact fun _ member => .tail _ (ih member)
    | _ => exact fun _ => id

theorem ensures_ofDirectives (versioned : Bool) (known : Handles) (found : List Directive) :
    Ensures (Unread all) (fun _ => True) (Handles.ofDirectives versioned known found) := by
  induction found generalizing versioned known with
  | nil => trivial
  | cons d rest ih =>
    cases d with
    | version major =>
      unfold Handles.ofDirectives
      split
      · exact .inl (.inl rfl)
      · exact ih true known
    | tagHandle handle beginning =>
      unfold Handles.ofDirectives
      split
      · exact .inl (.inl rfl)
      · exact ih versioned _
    | reserved => exact ih versioned known

theorem ensures_directives (within : tokens ⊆ all) :
    Ensures (Unread all) (fun found => found.2 ⊆ all) (directives tokens) :=
  (ensures_ofDirectives false [] _).bind fun _ _ =>
    List.Subset.trans (split_subset tokens) within

theorem ensures_checkEnd (within : tokens ⊆ all) :
    Ensures (Unread all) (fun _ => True) (checkEnd tokens) := by
  unfold checkEnd
  have within := List.Subset.trans (List.dropWhile_sublist (· == .documentEnd)).subset within
  split
  · trivial
  · exact (ensures_directives within).bind fun _ inAll => unread_unexpected inAll

theorem ensures_ofContent (limit : Nat) (handles : Handles) (within : tokens ⊆ all) :
    Ensures (Unread all) (fun _ => True) (ofContent limit handles tokens) := by
  have root : Reads all (if endsDocument tokens then newNode .empty
      else read ⟨handles, limit, []⟩ .block (6 * tokens.length + 6)) :=
    .ite (reads_newNode _) ((readsWithin all _).read _ _)
  exact (root ⟨tokens, [], .empty⟩ within).bind fun _ inAll =>
    (ensures_checkEnd inAll).bind fun _ _ => trivial

/-- Whatever stops the reading of a document is wrong with its tokens. -/
theorem ensures_ofTokens? (limit : Nat) (all : List Token) :
    Ensures (Unread all) (fun _ => True) (ofTokens? limit all) := by
  have some {rest : List Token} (handles : Handles) (within : rest ⊆ all) :
      Ensures (Unread all) (fun _ => True) (some <$> ofContent limit handles rest) := by
    rw [map_eq_pure_bind]
    exact (ensures_ofContent limit handles within).bind fun _ _ => trivial
  unfold ofTokens?
  split
  · trivial
  · exact some .default (tail_subset fun _ => id)
  · refine (ensures_directives fun _ => id).bind fun found inAll => ?_
    split
    · exact some _ (tail_subset inAll)
    · exact unread_unexpected inAll
  · exact .inl (.inl rfl)
  · exact some .default fun _ => id

end Graph

end PrismaEsdl.Yaml
