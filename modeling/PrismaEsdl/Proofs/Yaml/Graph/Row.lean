import PrismaEsdl.Proofs.Yaml.Graph.Standing

/-!
Rows of parts in brackets: the items of a sequence and the entries of a mapping.

Both are read by one scheme: the closing bracket ends the row, and a part has a comma in front of it
unless it is the first (`Row`). So the tokens of a row are read as its parts are
(`Row.ends_written`): reading stops with the first fault in the parts, or gives what every one of
them means.
-/

namespace PrismaEsdl.Yaml.Graph

open Reader

/-! ### What is kept -/

/-- What reading keeps and leaves: the nodes there were, and the tokens that follow. -/
structure Leaves (g : Graph) (rest : List Token) (s : Source) : Prop where
  tokens_eq : s.tokens = rest
  extends' : Extends 0 g s.graph

theorem Leaves.trans {g : Graph} {after rest : List Token} {s s' : Source}
    (first : Leaves g after s) (second : Leaves s.graph rest s') : Leaves g rest s' :=
  ⟨second.tokens_eq, first.extends'.trans second.extends'⟩

/-! ### Rows -/

/-- A part as it is written: its tokens, the fault in them, and what it means otherwise. -/
structure Part (β : Type) where
  tokens : List Token
  fault : Option Fault
  meaning : β

/-- The first fault in some parts. -/
def Part.firstFault {β : Type} : List (Part β) → Option Fault
  | [] => none
  | part :: parts => part.fault.or (firstFault parts)

/-- How the parts of a row are read, and when a part has a meaning. -/
structure Row (α β : Type) where
  /-- Reads the parts up to the end of the row; `true` stands for a row with no part before. -/
  parts : Bool → Nat → Reader (List α)
  /-- Reads a part. -/
  part : Nat → Reader α
  /-- The token at the end of the row. -/
  closing : Token
  /-- Whether a token begins a part. -/
  Begins : Token → Prop
  /-- Whether a part with nodes from a number on has a meaning. -/
  Means : Nat → Graph → α → β → Prop
  run_end {fuel : Nat} {rest : List Token} {anchors : List (Text × Nat)} {g : Graph}
    (first : Bool) :
    (parts first (fuel + 1)).run ⟨closing :: rest, anchors, g⟩ = .ok ([], ⟨rest, anchors, g⟩)
  run_first {fuel : Nat} {rest : List Token} {anchors : List (Text × Nat)} {g : Graph}
    {token : Token} (begins : Begins token) :
    (parts true (fuel + 1)).run ⟨token :: rest, anchors, g⟩
      = (do
          let a ← part fuel
          return a :: (← parts false fuel) : Reader (List α)).run ⟨token :: rest, anchors, g⟩
  run_next {fuel : Nat} {rest : List Token} {anchors : List (Text × Nat)} {g : Graph}
    {token : Token} (begins : Begins token) :
    (parts false (fuel + 1)).run ⟨.separator :: token :: rest, anchors, g⟩
      = (do
          let a ← part fuel
          return a :: (← parts false fuel) : Reader (List α)).run ⟨token :: rest, anchors, g⟩
  means_extends {first later : Nat} {g g' : Graph} {a : α} {b : β} (means : Means later g a b)
    (le : first ≤ later) (extends' : Extends later g g') : Means first g' a b

namespace Row

variable {α β : Type} {row : Row α β} {part : Part β} {parts : List (Part β)} {fuel : Nat}
  {after rest : List Token} {g : Graph} {s : Source} {fault : Option Fault} {meanings : List β}

/-- Whether a part with new nodes and a meaning was read. -/
structure ReadsPart (row : Row α β) (g : Graph) (rest : List Token) (meaning : β) (a : α)
    (s : Source) : Prop extends Leaves g rest s where
  means : row.Means g.nodes.size s.graph a meaning

/-- Whether parts with new nodes and meanings were read. -/
structure Reads (row : Row α β) (g : Graph) (rest : List Token) (meanings : List β) (read : List α)
    (s : Source) : Prop extends Leaves g rest s where
  exists_pairs : ∃ pairs : List (α × β),
    read = pairs.map Prod.fst ∧ meanings = pairs.map Prod.snd ∧
      ∀ pair ∈ pairs, row.Means g.nodes.size s.graph pair.1 pair.2

/-- Whether a part and parts behind it are read as their faults say, wherever they stand. -/
structure IsReadable (row : Row α β) (part : Part β) : Prop where
  begins : ∃ token rest, part.tokens = token :: rest ∧ row.Begins token
  ends {fuel : Nat} {after rest : List Token} {s : Source} {fault : Option Fault}
    {meanings : List β} :
    s.tokens = part.tokens ++ after → 6 * part.tokens.length < fuel →
    (∀ s' : Source, s'.tokens = after →
      Ends ((row.parts false fuel).run s') fault (row.Reads s'.graph rest meanings)) →
    Ends ((do
      let a ← row.part fuel
      return a :: (← row.parts false fuel) : Reader (List α)).run s)
      (part.fault.or fault) (row.Reads s.graph rest (part.meaning :: meanings))

/-- A part that is read goes in front of the parts behind it. -/
theorem ends_cons {fault' : Option Fault} {meaning : β}
    (first : Ends ((row.part fuel).run s) fault (row.ReadsPart s.graph after meaning))
    (others : ∀ s' : Source, s'.tokens = after →
      Ends ((row.parts false fuel).run s') fault' (row.Reads s'.graph rest meanings)) :
    Ends ((do
      let a ← row.part fuel
      return a :: (← row.parts false fuel) : Reader (List α)).run s)
      (fault.or fault') (row.Reads s.graph rest (meaning :: meanings)) := by
  refine first.bind fun a s' head => ?_
  refine (others s' head.tokens_eq).map fun read s'' tail => ?_
  obtain ⟨leaves, pairs, rfl, rfl, means⟩ := tail
  refine ⟨head.toLeaves.trans leaves, (a, meaning) :: pairs, rfl, rfl, ?_⟩
  intro pair member
  rcases List.mem_cons.mp member with rfl | member
  · exact row.means_extends head.means (Nat.le_refl _) (leaves.extends'.weaken (Nat.zero_le _))
  · exact row.means_extends (means pair member) head.extends'.size_le (.refl _)

/-- The tokens of parts behind others. -/
def later (parts : List (Part β)) : List Token :=
  parts.flatMap fun part => Token.separator :: part.tokens

theorem ends_later (readable : ∀ part ∈ parts, row.IsReadable part)
    (tokens_eq : s.tokens = later parts ++ row.closing :: rest)
    (enough : 6 * ((later parts).length + 1) ≤ fuel) :
    Ends ((row.parts false fuel).run s) (Part.firstFault parts)
      (row.Reads s.graph rest (parts.map Part.meaning)) := by
  induction parts generalizing fuel s with
  | nil =>
    obtain ⟨_, anchors, g⟩ := s
    obtain rfl : _ = _ := tokens_eq
    obtain ⟨fuel, rfl⟩ : ∃ n, fuel = n + 1 := ⟨fuel - 1, by omega⟩
    exact ⟨_, _, row.run_end false, ⟨rfl, .refl g⟩, [], rfl, rfl, by simp⟩
  | cons part parts ih =>
    obtain ⟨fuel, rfl⟩ : ∃ n, fuel = n + 1 := ⟨fuel - 1, by omega⟩
    rw [later, List.flatMap_cons, ← later, List.cons_append] at tokens_eq enough
    rw [List.cons_append, List.append_assoc] at tokens_eq
    rw [List.length_cons, List.length_append] at enough
    have head := readable part List.mem_cons_self
    have step : (row.parts false (fuel + 1)).run s = (do
        let a ← row.part fuel
        return a :: (← row.parts false fuel) : Reader (List α)).run
          { s with tokens := part.tokens ++ (later parts ++ row.closing :: rest) } := by
      obtain ⟨token, tokens, written, begins⟩ := head.begins
      obtain ⟨_, anchors, g⟩ := s
      obtain rfl : _ = _ := tokens_eq
      rw [written]
      exact row.run_next begins
    rw [step]
    exact head.ends rfl (by omega) fun s' after =>
      ih (fun other member => readable other (List.mem_cons_of_mem _ member)) after (by omega)

/-- Parts with a separator between them are the first one and the others behind separators. -/
theorem intercalate_eq_later (part : Part β) (parts : List (Part β)) :
    [Token.separator].intercalate ((part :: parts).map Part.tokens)
      = part.tokens ++ later parts := by
  induction parts generalizing part with
  | nil => simp [later]
  | cons next parts ih =>
    rw [List.map_cons, List.map_cons, List.intercalate_cons_cons, ← List.map_cons, ih,
      List.append_assoc]
    rfl

/-- The parts of a row are read in order, up to the first fault in one of them. -/
theorem ends_written (readable : ∀ part ∈ parts, row.IsReadable part)
    (tokens_eq : s.tokens = [Token.separator].intercalate (parts.map Part.tokens)
      ++ row.closing :: rest)
    (enough : 6 * (([Token.separator].intercalate (parts.map Part.tokens)).length + 1) ≤ fuel) :
    Ends ((row.parts true fuel).run s) (Part.firstFault parts)
      (row.Reads s.graph rest (parts.map Part.meaning)) := by
  obtain ⟨fuel, rfl⟩ : ∃ n, fuel = n + 1 := ⟨fuel - 1, by omega⟩
  cases parts with
  | nil =>
    obtain ⟨_, anchors, g⟩ := s
    obtain rfl : _ = _ := tokens_eq
    exact ⟨_, _, row.run_end true, ⟨rfl, .refl g⟩, [], rfl, rfl, by simp⟩
  | cons part parts =>
    rw [intercalate_eq_later] at tokens_eq enough
    rw [List.append_assoc] at tokens_eq
    rw [List.length_append] at enough
    have head := readable part List.mem_cons_self
    obtain ⟨token, tokens, written, begins⟩ := head.begins
    have long : 0 < part.tokens.length := by simp [written]
    have step : (row.parts true (fuel + 1)).run s = (do
        let a ← row.part fuel
        return a :: (← row.parts false fuel) : Reader (List α)).run s := by
      obtain ⟨_, anchors, g⟩ := s
      obtain rfl : _ = _ := tokens_eq
      rw [written]
      exact row.run_first begins
    rw [step]
    exact head.ends tokens_eq (by omega) fun s' after =>
      ends_later (fun other member => readable other (List.mem_cons_of_mem _ member)) after
        (by omega)

end Row

/-! ### Items and entries -/

variable {here : Surroundings}

/-- The items of a sequence stand for documents. -/
def itemRow (here : Surroundings) : Row Nat Document where
  parts := flowItems here
  part := flowItem here
  closing := .flowSequenceEnd
  Begins token := token.startsNode = true
  Means first g n document := first ≤ n ∧ g.Stands n document
  run_end := run_flowItems_end
  run_first := run_flowItems_first
  run_next := run_flowItems_next
  means_extends := fun ⟨new, stands⟩ le extends' =>
    ⟨Nat.le_trans le new, stands.extends extends' new⟩

/-- The entries of a mapping are texts and stand for the documents under them. -/
def entryRow (here : Surroundings) : Row (Nat × Nat) (Text × Document) where
  parts := flowEntries here
  part := flowEntry here
  closing := .flowMappingEnd
  Begins token := token = .key ∨ token.startsNode = true
  Means first g entry field := (first ≤ entry.1 ∧ first ≤ entry.2) ∧
    g.IsText entry.1 field.1 ∧ g.Stands entry.2 field.2
  run_end := run_flowEntries_end
  run_first := run_flowEntries_first
  run_next := run_flowEntries_next
  means_extends := fun ⟨⟨newKey, newContent⟩, isText, stands⟩ le extends' =>
    ⟨⟨Nat.le_trans le newKey, Nat.le_trans le newContent⟩, isText.extends extends' newKey,
      stands.extends extends' newContent⟩

/-! ### Collections -/

/-- Whether a new node that stands for a document was read. -/
structure ReadsNode (g : Graph) (rest : List Token) (document : Document) (n : Nat) (s : Source) :
    Prop extends Leaves g rest s where
  new : g.nodes.size ≤ n
  stands : s.graph.Stands n document

/-- A collection is read as its parts are if it is not inside of too many others. -/
theorem ends_collection {α β : Type} (row : Surroundings → Row α β) {kind : Kind}
    {form : List α → Form} {parts : List (Part β)} {document : Document} {fuel : Nat}
    {rest : List Token} {s : Source}
    (readable : ∀ part ∈ parts, (row (here.within s.graph.nodes.size)).IsReadable part)
    (tokens_eq : s.tokens = [Token.separator].intercalate (parts.map Part.tokens)
      ++ (row (here.within s.graph.nodes.size)).closing :: rest)
    (enough : 6 * (([Token.separator].intercalate (parts.map Part.tokens)).length + 1) ≤ fuel)
    (stands : ∀ (g : Graph) (pairs : List (α × β)), parts.map Part.meaning = pairs.map Prod.snd →
      s.graph.nodes.size < g.nodes.size →
      g.node s.graph.nodes.size = ⟨kind, form (pairs.map Prod.fst)⟩ →
      (∀ pair ∈ pairs, (row (here.within s.graph.nodes.size)).Means (s.graph.nodes.size + 1) g
        pair.1 pair.2) →
      g.Stands s.graph.nodes.size document) :
    Ends ((collection here none kind fun here => form <$> (row here).parts true fuel).run s)
      (if here.around.length < here.limit then Part.firstFault parts else some .tooDeep)
      (ReadsNode s.graph rest document) := by
  obtain ⟨tokens, anchors, g⟩ := s
  rw [run_collection]
  split
  next =>
    have row_ends := Row.ends_written (s := ⟨tokens, anchors, (g.add ⟨kind, .scalar []⟩).2⟩)
      readable tokens_eq enough
    have content : Ends
        ((form <$> (row (here.within g.nodes.size)).parts true fuel).run
          ⟨tokens, anchors, (g.add ⟨kind, .scalar []⟩).2⟩)
        (Part.firstFault parts) fun made s' => ∃ read, made = form read ∧
          (row (here.within g.nodes.size)).Reads (g.add ⟨kind, .scalar []⟩).2 rest
            (parts.map Part.meaning) read s' :=
      row_ends.map fun read s' reads => ⟨read, rfl, reads⟩
    rw [← Option.or_none (o := Part.firstFault parts)]
    refine content.bind fun _ s' ⟨read, made, reads⟩ => ⟨_, _, rfl, ?_⟩
    obtain rfl : _ = _ := made
    obtain ⟨⟨tokens_eq, extends'⟩, pairs, rfl, meanings_eq, means⟩ := reads
    rw [size_add] at means
    have inside : g.nodes.size < s'.graph.nodes.size :=
      Nat.lt_of_lt_of_le (by simp [size_add]) extends'.size_le
    refine ⟨⟨tokens_eq, ?_⟩, Nat.le_refl _, stands _ pairs meanings_eq (by rwa [size_setForm]) ?_
      fun pair member => (row _).means_extends (means pair member) (Nat.le_refl _)
        (extends_setForm _ _ _)⟩
    · refine ⟨?_, fun _ small => ?_, extends'.cyclic_eq⟩
      · rw [size_setForm]
        exact Nat.le_of_lt inside
      · rw [node_setForm_of_ne (Nat.ne_of_lt small)]
        exact ((extends_add g _).trans extends').node_eq (Nat.zero_le _) small
    · rw [node_setForm_self inside, extends'.node_eq (Nat.zero_le _) (by simp [size_add]),
        node_add_self]
  next => rfl

end PrismaEsdl.Yaml.Graph
