import PrismaEsdl.Proofs.Json.Rereading
import PrismaEsdl.Proofs.Json.Tokens
import PrismaEsdl.Proofs.Yaml.Graph.Row
import PrismaEsdl.Proofs.Yaml.Scalar

/-!
The nodes of a JSON document.

Reading the tokens of a document stops with the first fault in it (`Document.faultIn`): a collection
inside of too many others, or a key with a literal that is too long. Without a fault the node that
is read stands for what the document is read back as (`ends_tokens`).
-/

namespace PrismaEsdl

namespace Document

open Yaml (Fault Token)

/-! ### Faults -/

/-- The fault of a key. -/
def keyFault : Document → Option Fault
  | text t =>
    if (Json.Literal.ascii t).length ≤ maxKeyLength then none else some .malformed
  | _ => none

mutual

/-- The first fault in the text of a document inside of some collections, where no more than a
limit of them may stand around a node. -/
def faultIn (limit depth : Nat) : Document → Option Fault
  | list items => if depth < limit then itemsFault limit (depth + 1) items else some .tooDeep
  | object entries =>
    if depth < limit then entriesFault limit (depth + 1) entries else some .tooDeep
  | _ => none

def itemsFault (limit depth : Nat) : List Document → Option Fault
  | [] => none
  | item :: rest => (faultIn limit depth item).or (itemsFault limit depth rest)

def entriesFault (limit depth : Nat) : List (Document × Document) → Option Fault
  | [] => none
  | (key, content) :: rest =>
    ((keyFault key).or (faultIn limit depth content)).or (entriesFault limit depth rest)

end

/-- The first fault in the text of a document. -/
def fault (limit : Nat) (document : Document) : Option Fault := document.faultIn limit 0

/-! ### Fields -/

/-- Fields as they are read back. -/
def rereadFields (fields : List (Text × Document)) : List (Text × Document) :=
  fields.map fun field => (field.1.units, field.2.reread)

theorem reread_fieldEntries (fields : List (Text × Document)) :
    (object (fieldEntries fields)).reread = ofEntries (fieldEntries (rereadFields fields)) := by
  rw [reread, rereadEntries_eq_map, fieldEntries, fieldEntries, rereadFields, List.map_map,
    List.map_map]
  rfl

theorem areShowable_iff {items : List Document} :
    areShowable items = true ↔ ∀ item ∈ items, item.isShowable = true := by
  induction items with
  | nil => simp [areShowable]
  | cons item items ih => simp [areShowable, ih]

theorem areShowable_fieldEntries_iff {fields : List (Text × Document)} :
    areShowableEntries (fieldEntries fields) = true ↔
      ∀ field ∈ fields, field.2.isShowable = true := by
  induction fields with
  | nil => simp [fieldEntries, areShowableEntries]
  | cons field fields ih =>
    rw [fieldEntries, List.map_cons, ← fieldEntries, areShowableEntries]
    simp [isShowable, ih]

/-! ### Parts -/

/-- An item inside of some collections. -/
def itemPart (limit depth : Nat) (item : Document) : Yaml.Graph.Part Document :=
  ⟨item.tokens, item.faultIn limit depth, item.reread⟩

/-- An entry with a text as its key inside of some collections. -/
def entryPart (limit depth : Nat) (field : Text × Document) : Yaml.Graph.Part (Text × Document) :=
  ⟨keyTokens (.text field.1) ++ field.2.tokens,
    (keyFault (.text field.1)).or (field.2.faultIn limit depth), (field.1.units, field.2.reread)⟩

theorem itemTokens_eq_itemPart (limit depth : Nat) (items : List Document) :
    itemTokens items = (items.map (itemPart limit depth)).map Yaml.Graph.Part.tokens := by
  rw [itemTokens_eq_map, List.map_map]
  rfl

theorem entryTokens_eq_entryPart (limit depth : Nat) (fields : List (Text × Document)) :
    entryTokens (fieldEntries fields)
      = (fields.map (entryPart limit depth)).map Yaml.Graph.Part.tokens := by
  rw [entryTokens_eq_map, fieldEntries, List.map_map, List.map_map]
  rfl

theorem itemsFault_eq_firstFault (limit depth : Nat) (items : List Document) :
    itemsFault limit depth items
      = Yaml.Graph.Part.firstFault (items.map (itemPart limit depth)) := by
  induction items with
  | nil => rfl
  | cons item items ih => rw [itemsFault, ih, List.map_cons, Yaml.Graph.Part.firstFault, itemPart]

theorem entriesFault_eq_firstFault (limit depth : Nat) (fields : List (Text × Document)) :
    entriesFault limit depth (fieldEntries fields)
      = Yaml.Graph.Part.firstFault (fields.map (entryPart limit depth)) := by
  induction fields with
  | nil => rfl
  | cons field fields ih =>
    rw [fieldEntries, List.map_cons, entriesFault, ← fieldEntries, ih, List.map_cons,
      Yaml.Graph.Part.firstFault, entryPart]

end Document

namespace Yaml.Graph

open Reader

variable {here : Surroundings} {fuel : Nat} {rest : List Token} {s : Source} {g : Graph}

/-! ### Nodes -/

/-- Whether a new scalar node was read. -/
structure ReadsScalar (g : Graph) (rest : List Token) (node : Node) (n : Nat) (s : Source) : Prop
    extends Leaves g rest s where
  new : g.nodes.size ≤ n
  inside : n < s.graph.nodes.size
  node_eq : s.graph.node n = node

theorem ends_scalar {place : Place} {content : Text} {plain : Bool}
    (tokens_eq : s.tokens = .scalar content plain :: rest) (enough : 0 < fuel) :
    Ends ((read here place fuel).run s) none
      (ReadsScalar s.graph rest ⟨Tag.absent.scalarKind content plain, .scalar content⟩) := by
  obtain ⟨_, anchors, g⟩ := s
  obtain rfl : _ = _ := tokens_eq
  obtain ⟨fuel, rfl⟩ : ∃ n, fuel = n + 1 := ⟨fuel - 1, by omega⟩
  exact ⟨_, _, run_read_scalar content plain, ⟨rfl, extends_add g _⟩, Nat.le_refl _,
    by simp [size_add], node_add_self g _⟩

/-- Whether reading the tokens of a document ends as its faults say, wherever they stand. -/
structure IsReadable (document : Document) : Prop where
  starts : ∃ token rest, document.tokens = token :: rest ∧ token.startsNode = true
  ends {here : Surroundings} {place : Place} {fuel : Nat} {rest : List Token} {s : Source} :
    s.tokens = document.tokens ++ rest → 6 * document.tokens.length ≤ fuel →
      Ends ((read here place fuel).run s) (document.faultIn here.limit here.around.length)
        (ReadsNode s.graph rest document.reread)

/-! ### Items -/

/-- A document is read as an item. -/
theorem IsReadable.item {item : Document} (readable : IsReadable item) :
    (itemRow here).IsReadable (item.itemPart here.limit here.around.length) where
  begins := readable.starts
  ends {fuel after rest s fault meanings} tokens_eq enough others := by
    obtain ⟨fuel, rfl⟩ : ∃ n, fuel = n + 1 := ⟨fuel - 1, by omega⟩
    have reads : Ends ((read here .flow fuel).run s) (item.faultIn here.limit here.around.length)
        (ReadsNode s.graph after item.reread) := readable.ends tokens_eq (Nat.le_of_lt_succ enough)
    have first : Ends ((flowItem here (fuel + 1)).run s)
        (item.faultIn here.limit here.around.length)
        ((itemRow here).ReadsPart s.graph after item.reread) := by
      obtain ⟨token, tokens, written, starts⟩ := readable.starts
      obtain ⟨_, anchors, g⟩ := s
      rw [Document.itemPart, written, List.cons_append] at tokens_eq
      obtain rfl : _ = _ := tokens_eq
      rw [run_flowItem starts]
      exact reads.mono fun n s' node => ⟨node.toLeaves, node.new, node.stands⟩
    exact Row.ends_cons first others

/-! ### Entries -/

/-- A key with a short literal and its content are read as an entry. -/
theorem ends_flowEntry {t : Text} {content : Document} {after : List Token}
    (readable : IsReadable content) (short : (Json.Literal.ascii t).length ≤ Document.maxKeyLength)
    (tokens_eq : s.tokens = Document.keyTokens (.text t) ++ (content.tokens ++ after))
    (enough : 6 * content.tokens.length + 5 ≤ fuel) :
    Ends ((flowEntry here fuel).run s) (content.faultIn here.limit here.around.length)
      ((entryRow here).ReadsPart s.graph after (t.units, content.reread)) := by
  obtain ⟨fuel, rfl⟩ : ∃ n, fuel = n + 5 := ⟨fuel - 5, by omega⟩
  rw [Document.keyTokens, if_pos short] at tokens_eq
  obtain ⟨_, anchors, g⟩ := s
  obtain rfl : _ = _ := tokens_eq
  have key : Ends ((readOptional here .flow (fuel + 3)).run
      ⟨.scalar t.units false :: .value :: (content.tokens ++ after), anchors, g⟩) none
      (ReadsScalar g (.value :: (content.tokens ++ after)) ⟨.text, .scalar t.units⟩) := by
    rw [run_readOptional rfl]
    exact ends_scalar (s := ⟨.scalar t.units false :: _, anchors, g⟩) rfl (Nat.succ_pos _)
  rw [List.cons_append, run_flowEntry_key, readEntry_succ]
  refine key.bind fun n s' text => ?_
  obtain ⟨token, tokens, written, starts⟩ := readable.starts
  have value : Ends ((readValue here .flow (fuel + 3)).run s')
      (content.faultIn here.limit here.around.length)
      (ReadsNode s'.graph after content.reread) := by
    obtain ⟨_, anchors', g'⟩ := s'
    obtain rfl : _ = _ := text.tokens_eq
    rw [run_readValue, written, List.cons_append, run_readOptional starts]
    exact readable.ends (by rw [written]; rfl) (by omega)
  refine value.map fun m s'' node => ⟨text.toLeaves.trans node.toLeaves, ⟨text.new, ?_⟩, ?_, ?_⟩
  · exact Nat.le_trans text.extends'.size_le node.new
  · exact .extends ⟨text.inside, text.node_eq⟩ node.extends' (Nat.zero_le _)
  · exact node.stands

/-- A key with a long literal is read as a key alone, and the colon after it is out of place. -/
theorem ends_longKey {t : Text} {after : List Token} {good : List (Nat × Nat) → Source → Prop}
    (long : Document.maxKeyLength < (Json.Literal.ascii t).length)
    (tokens_eq : s.tokens = Document.keyTokens (.text t) ++ after) (enough : 3 ≤ fuel) :
    Ends ((do
      let entry ← flowEntry here fuel
      return entry :: (← flowEntries here false fuel) : Reader (List (Nat × Nat))).run s)
      (some .malformed) good := by
  obtain ⟨fuel, rfl⟩ : ∃ n, fuel = n + 3 := ⟨fuel - 3, by omega⟩
  rw [Document.keyTokens, if_neg (Nat.not_le_of_lt long)] at tokens_eq
  obtain ⟨_, anchors, g⟩ := s
  obtain rfl : _ = _ := tokens_eq
  have entry : Ends ((flowEntry here (fuel + 3)).run
      ⟨.scalar t.units false :: .value :: after, anchors, g⟩) none
      fun _ s' => s'.tokens = .value :: after := by
    have key : Ends ((read here .flow (fuel + 2)).run
        ⟨.scalar t.units false :: .value :: after, anchors, g⟩) none
        (ReadsScalar g (.value :: after) ⟨.text, .scalar t.units⟩) :=
      ends_scalar (s := ⟨.scalar t.units false :: _, anchors, g⟩) rfl (Nat.succ_pos _)
    rw [run_flowEntry_node rfl]
    exact key.bind fun n s' text => ⟨_, _, rfl, text.tokens_eq⟩
  refine entry.bind fun entry s' tokens_eq => ?_
  obtain ⟨_, anchors', g'⟩ := s'
  obtain rfl : _ = _ := tokens_eq
  have colon : Ends ((flowEntries here false (fuel + 3)).run ⟨.value :: after, anchors', g'⟩)
      (some .malformed) fun _ _ => False := run_flowEntries_value
  exact colon.bind fun _ _ never => (never.elim : Ends _ none good)

theorem keyTokens_starts (t : Text) : ∃ token rest,
    Document.keyTokens (.text t) = token :: rest ∧ (token = .key ∨ token.startsNode = true) := by
  rw [Document.keyTokens]
  split
  · exact ⟨_, _, rfl, Or.inl rfl⟩
  · exact ⟨_, _, rfl, Or.inr rfl⟩

/-- A document under a text is read as an entry. -/
theorem IsReadable.entry {field : Text × Document} (readable : IsReadable field.2) :
    (entryRow here).IsReadable (Document.entryPart here.limit here.around.length field) where
  begins := by
    obtain ⟨token, tokens, written, starts⟩ := keyTokens_starts field.1
    exact ⟨token, _, by rw [Document.entryPart, written, List.cons_append], starts⟩
  ends {fuel after rest s fault meanings} tokens_eq enough others := by
    obtain ⟨t, content⟩ := field
    rw [Document.entryPart, List.append_assoc] at tokens_eq
    replace enough :
        6 * ((Document.keyTokens (.text t)).length + content.tokens.length) < fuel := by
      rwa [Document.entryPart, List.length_append] at enough
    have written : 0 < (Document.keyTokens (.text t)).length := by
      obtain ⟨_, _, written, -⟩ := keyTokens_starts t
      simp [written]
    rcases Nat.lt_or_ge Document.maxKeyLength (Json.Literal.ascii t).length with long | short
    · have faulty : (Document.entryPart here.limit here.around.length (t, content)).fault
          = some .malformed := by
        simp [Document.entryPart, Document.keyFault, Nat.not_le_of_lt long]
      rw [faulty]
      exact ends_longKey long tokens_eq (by omega)
    · have inContent : (Document.entryPart here.limit here.around.length (t, content)).fault
          = content.faultIn here.limit here.around.length := by
        simp [Document.entryPart, Document.keyFault, short]
      rw [inContent]
      exact Row.ends_cons (ends_flowEntry readable short tokens_eq (by omega)) others

/-! ### Documents -/

theorem isReadable_scalar {document : Document} {content : Text} {plain : Bool}
    (tokens_eq : document.tokens = [.scalar content plain])
    (faultless : ∀ limit depth, document.faultIn limit depth = none)
    (value_eq : Scalar.value (Tag.absent.scalarKind content plain) content = .ok document.reread) :
    IsReadable document where
  starts := ⟨_, _, tokens_eq, rfl⟩
  ends written enough := by
    rw [tokens_eq, List.singleton_append] at written
    rw [tokens_eq, List.length_singleton] at enough
    rw [faultless]
    exact (ends_scalar written (by omega)).mono fun n s' scalar =>
      ⟨scalar.toLeaves, scalar.new, .scalar scalar.inside scalar.node_eq value_eq⟩

theorem isReadable_list {items : List Document} (readable : ∀ item ∈ items, IsReadable item) :
    IsReadable (.list items) where
  starts := ⟨_, _, rfl, rfl⟩
  ends {here place fuel rest s} written enough := by
    rw [Document.tokens, Document.itemTokens_eq_itemPart here.limit (here.around.length + 1),
      List.cons_append, List.append_assoc, List.singleton_append] at written
    rw [Document.tokens, Document.itemTokens_eq_itemPart here.limit (here.around.length + 1),
      List.length_cons, List.length_append, List.length_singleton] at enough
    obtain ⟨fuel, rfl⟩ : ∃ n, fuel = n + 1 := ⟨fuel - 1, by omega⟩
    obtain ⟨_, anchors, g⟩ := s
    obtain rfl : _ = _ := written
    rw [run_read_sequence, Document.faultIn, Document.itemsFault_eq_firstFault, Document.reread,
      Document.rereadItems_eq_map]
    refine ends_collection itemRow ?_ rfl (by omega) ?_
    · intro part member
      obtain ⟨item, among, rfl⟩ := List.mem_map.mp member
      exact (readable item among).item
    · intro g' pairs meanings_eq inside node_eq means
      rw [List.map_map] at meanings_eq
      rw [show items.map Document.reread = pairs.map Prod.snd from meanings_eq]
      exact .sequence inside node_eq (fun pair member => (means pair member).1)
        fun pair member => (means pair member).2

theorem isReadable_object {fields : List (Text × Document)}
    (readable : ∀ field ∈ fields, IsReadable field.2) :
    IsReadable (.object (Document.fieldEntries fields)) where
  starts := ⟨_, _, rfl, rfl⟩
  ends {here place fuel rest s} written enough := by
    rw [Document.tokens, Document.entryTokens_eq_entryPart here.limit (here.around.length + 1),
      List.cons_append, List.append_assoc, List.singleton_append] at written
    rw [Document.tokens, Document.entryTokens_eq_entryPart here.limit (here.around.length + 1),
      List.length_cons, List.length_append, List.length_singleton] at enough
    obtain ⟨fuel, rfl⟩ : ∃ n, fuel = n + 1 := ⟨fuel - 1, by omega⟩
    obtain ⟨_, anchors, g⟩ := s
    obtain rfl : _ = _ := written
    rw [run_read_mapping, Document.faultIn, Document.entriesFault_eq_firstFault,
      Document.reread_fieldEntries]
    refine ends_collection entryRow ?_ rfl (by omega) ?_
    · intro part member
      obtain ⟨field, among, rfl⟩ := List.mem_map.mp member
      exact (readable field among).entry
    · intro g' pairs meanings_eq inside node_eq means
      rw [List.map_map] at meanings_eq
      rw [show Document.rereadFields fields = pairs.map Prod.snd from meanings_eq]
      exact .mapping inside node_eq (fun pair member => (means pair member).1)
        (fun pair member => (means pair member).2.1) fun pair member => (means pair member).2.2

/-- The tokens of every document that can be written are read. -/
theorem isReadable {document : Document} (json : document.IsJson Binary64.IsCanonical)
    (showable : document.isShowable = true) : IsReadable document := by
  induction json with
  | null => exact isReadable_scalar rfl (fun _ _ => rfl) rfl
  | bool b => cases b <;> exact isReadable_scalar rfl (fun _ _ => rfl) rfl
  | int i => exact isReadable_scalar rfl (fun _ _ => rfl) (Scalar.value_ofInt showable)
  | float canonical => exact isReadable_scalar rfl (fun _ _ => rfl) (Scalar.value_toText canonical)
  | text t => exact isReadable_scalar rfl (fun _ _ => rfl) rfl
  | list parts ih =>
    exact isReadable_list fun item member =>
      ih item member (Document.areShowable_iff.mp showable item member)
  | object distinct keys contents ih =>
    obtain ⟨fields, rfl⟩ := Document.exists_fields keys
    exact isReadable_object fun field member =>
      ih _ (List.mem_map_of_mem member)
        (Document.areShowable_fieldEntries_iff.mp showable field member)

variable {limit : Nat}

theorem ofTokens?_eq {tokens : List Token}
    (starts : ∃ token rest, tokens = token :: rest ∧ token.startsNode = true) :
    ofTokens? limit tokens = some <$> (do
      let (root, s) ←
        (read ⟨.default, limit, []⟩ .block (6 * tokens.length + 6)).run ⟨tokens, [], .empty⟩
      checkEnd s.tokens
      return (s.graph, root)) := by
  obtain ⟨token, rest, rfl, starts⟩ := starts
  cases token <;> first
    | rfl
    | cases starts

/-- The tokens of a document are those of a graph whose root stands for the document as it is read
back, unless there is a fault in the document. -/
theorem ofTokens?_tokens {document : Document} (json : document.IsJson Binary64.IsCanonical)
    (showable : document.isShowable = true) :
    match document.fault limit with
    | some fault => ofTokens? limit document.tokens = .error fault
    | none => ∃ g root, ofTokens? limit document.tokens = .ok (some (g, root)) ∧ g.cyclic = false ∧
      g.Stands root document.reread := by
  have readable := isReadable json showable
  have reads : Ends ((read ⟨.default, limit, []⟩ .block (6 * document.tokens.length + 6)).run
      ⟨document.tokens, [], .empty⟩) (document.fault limit) (ReadsNode .empty [] document.reread) :=
    readable.ends (List.append_nil _).symm (Nat.le_add_right _ _)
  rw [ofTokens?_eq readable.starts]
  cases faulty : document.fault limit with
  | some fault =>
    rw [faulty] at reads
    rw [show (read _ _ _).run _ = .error fault from reads]
    rfl
  | none =>
    rw [faulty] at reads
    obtain ⟨root, s, run_eq, node⟩ := reads
    rw [run_eq]
    refine ⟨s.graph, root, ?_, node.extends'.cyclic_eq, node.stands⟩
    change some <$> (checkEnd s.tokens >>= fun _ => pure (s.graph, root)) = _
    rw [node.tokens_eq]
    rfl

end Yaml.Graph

end PrismaEsdl
