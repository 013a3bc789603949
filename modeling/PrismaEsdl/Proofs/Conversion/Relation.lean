import PrismaEsdl.Proofs.Conversion.Indexing

/-!
Relations in a run of the program.

What a relation says does not depend on how its arguments are mixed
(`arguments_decide_relation`). The program, however, shows the value of every argument with a key
that counts before it goes on, also where another argument with the same key comes later. So a value
that is replaced is not always without effect (`not_every_replaced_value_is_irrelevant`).
-/

namespace PrismaEsdl.Prisma

/-- A field of a schema has a relation with these arguments. -/
def Schema.HasRelation (schema : Schema) (arguments : List Value) : Prop :=
  ∃ name properties declaration, .model name properties ∈ schema.declarations ∧
    .field declaration ∈ properties ∧ ⟨"relation", arguments⟩ ∈ declaration.attributes

variable {stack : Stack} {arguments : List Value}

/-- What a relation of a schema says fits if all that is declared fits. -/
theorem Schema.HasRelation.fits {schema : Schema} (related : schema.HasRelation arguments)
    (fits : schema.Fits stack) : ∀ argument ∈ arguments, Relation.Fits stack argument := by
  obtain ⟨name, properties, declaration, declared, member, stands⟩ := related
  have field := fits (name, properties) (List.mem_filterMap.mpr ⟨_, declared, rfl⟩) declaration
    (List.mem_filterMap.mpr ⟨_, member, rfl⟩)
  exact field.attributes _ stands rfl

/-- The attribute that is made of a relation is the relation that its arguments make. -/
theorem FieldAttribute.ofDeclaration?_relation_iff {relation : Relation} :
    ofDeclaration? stack ⟨"relation", arguments⟩ = .ok (some (.relation relation)) ↔
      Relation.ofArguments stack arguments = .ok relation := by
  have made : ofDeclaration? stack ⟨"relation", arguments⟩
      = do return some (.relation (← Relation.ofArguments stack arguments)) := rfl
  rw [made]
  cases Relation.ofArguments stack arguments with
  | error excess => exact iff_of_false nofun nofun
  | ok other =>
      constructor
      · rintro ⟨⟩
        rfl
      · rintro ⟨⟩
        rfl

end PrismaEsdl.Prisma

namespace PrismaEsdl.Program

open Prisma (FieldAttribute Relation Value)
open Prisma.Reading (unshowableNumber)

/-- Posts with an author, in a relation with these arguments. -/
def posts (arguments : List Value) : Prisma.Schema := ⟨[
  .model "User" [.field ⟨"email", .text "String", false, false, []⟩],
  .model "Post" [
    .field ⟨"author", .text "User", false, false, [⟨"relation", arguments⟩]⟩,
    .field ⟨"authorId", .text "String", false, false, []⟩]]⟩

variable {stack : Stack} {arguments : List Value}

theorem hasRelation_posts (arguments : List Value) : (posts arguments).HasRelation arguments :=
  ⟨_, _, _, .tail _ (.head _), .head _, .head _⟩

/-- The posts fit if the arguments of their relation do. -/
theorem fits_posts (fit : ∀ argument ∈ arguments, Relation.Fits stack argument) :
    (posts arguments).Fits stack := by
  have plain : ∀ name type, (⟨name, .text type, false, false, []⟩
      : Prisma.FieldDeclaration).Fits stack :=
    fun _ _ => ⟨⟨rfl, Nat.zero_le _⟩, nofun⟩
  have author : (⟨"author", .text "User", false, false, [⟨"relation", arguments⟩]⟩
      : Prisma.FieldDeclaration).Fits stack := by
    refine ⟨⟨rfl, Nat.zero_le _⟩, fun declared member _ => ?_⟩
    rw [List.mem_singleton.mp member]
    exact fit
  intro declared member declaration member'
  rcases List.mem_cons.mp member with rfl | member
  · rw [List.mem_singleton.mp member']
    exact plain _ _
  · rcases List.mem_singleton.mp member with rfl
    rcases List.mem_cons.mp member' with rfl | member'
    · exact author
    · rw [List.mem_singleton.mp member']
      exact plain _ _

/-- A run that has told something has not been stopped at once. -/
theorem not_stopped_of_fits {schema : Prisma.Schema} (fits : schema.Fits stack) (excess : Excess) :
    convert stack schema ≠ .stop (.excessive excess) := by
  intro stopped
  obtain ⟨models, indexed⟩ := Prisma.Schema.gives_models_iff.mpr fits
  obtain ⟨later, begins⟩ := exists_events_convert indexed
  rw [stopped] at begins
  cases begins

/-- Arguments stop the program at once in every schema with a relation that has them exactly if one
of them does not fit. -/
theorem stops_with_relation_iff :
    (∀ schema : Prisma.Schema, schema.HasRelation arguments →
        ∃ excess, convert stack schema = .stop (.excessive excess)) ↔
      ¬ ∀ argument ∈ arguments, Relation.Fits stack argument := by
  constructor
  · intro stops fit
    obtain ⟨excess, stopped⟩ := stops _ (hasRelation_posts arguments)
    exact not_stopped_of_fits (fits_posts fit) excess stopped
  · intro exceeds schema related
    exact convert_of_not_fits fun fits => exceeds (related.fits fits)

/-- What a relation says follows from its arguments, wherever these stand among each other. The id
fields, and what they refer to, are named by the last value under the key of each; the name is the
last value under its key, or the first text if there is none. So nothing changes in another order
that keeps the order of the values under each key, and of the texts. There is a relation exactly if
the values under the three keys can be shown, also those that another value replaces; if one of them
cannot be, the arguments stop the program in every schema that has a relation with them. -/
theorem arguments_decide_relation (stack : Stack) (arguments : List Value) :
    ((∃ relation, FieldAttribute.ofDeclaration? stack ⟨"relation", arguments⟩
        = .ok (some (.relation relation))) ↔
      ∀ key, ∀ value ∈ Relation.valuesUnder key arguments, Relation.FitsUnder stack key value) ∧
    (∀ relation, FieldAttribute.ofDeclaration? stack ⟨"relation", arguments⟩
        = .ok (some (.relation relation)) → relation.IsSaidBy stack arguments) ∧
    (∀ others, Relation.Reorders arguments others → ∀ relation,
      FieldAttribute.ofDeclaration? stack ⟨"relation", others⟩ = .ok (some (.relation relation)) ↔
        FieldAttribute.ofDeclaration? stack ⟨"relation", arguments⟩
          = .ok (some (.relation relation))) ∧
    ((∀ schema : Prisma.Schema, schema.HasRelation arguments →
        ∃ excess, convert stack schema = .stop (.excessive excess)) ↔
      ∃ key, ∃ value ∈ Relation.valuesUnder key arguments,
        ¬ Relation.FitsUnder stack key value) := by
  simp only [FieldAttribute.ofDeclaration?_relation_iff]
  refine ⟨?_, fun _ => Relation.isSaidBy_of_ofArguments, ?_, ?_⟩
  · rw [← Relation.forall_fits_iff]
    exact Relation.gives_ofArguments_iff
  · intro others reorders relation
    exact reorders.ofArguments_eq_ok_iff
  · rw [stops_with_relation_iff, Relation.forall_fits_iff]
    simp only [not_forall, exists_prop]

/-- The arguments of a relation that say nothing in the end: texts before a name that is given under
its key, and a key that does not count. -/
def passedOver : List Value :=
  [.text "\"Wrote\"", .keyed "map" (.text "post_author"), .text "\"Posts\""]

/-- Arguments of a relation, the first of which is replaced by the last. -/
def counted : List Value :=
  [.keyed "fields" (.text "writerId"), .keyed "name" (.text "\"Authored\""),
    .keyed "references" (.list [.text "id"]), .keyed "fields" (.list [.text "authorId"])]

/-- Arguments that name the id fields of a relation twice. -/
def replaced (value : Value) : List Value :=
  [.keyed "fields" value, .keyed "fields" (.list [.text "authorId"])]

theorem counted_passedOver_say_the_same :
    Relation.Reorders (passedOver ++ counted) (counted ++ passedOver) ∧
      FieldAttribute.ofDeclaration? .usual ⟨"relation", counted ++ passedOver⟩
        = .ok (some (.relation
          { name := some "Authored", fields := some ["authorId"], references := some ["id"] })) ∧
      (posts (replaced (.int unshowableNumber))).HasRelation (replaced (.int unshowableNumber)) ∧
      ∃ excess, convert .usual (posts (replaced (.int unshowableNumber)))
        = .stop (.excessive excess) := by
  have reorders : Relation.Reorders (passedOver ++ counted) (counted ++ passedOver) := by
    refine Relation.reorders_append_comm (fun key => ?_) (.inr rfl)
    by_cases mapped : "map" = key
    · subst mapped
      exact .inr rfl
    · exact .inl (by simp [Relation.valuesUnder, passedOver, Value.under?, mapped])
  obtain ⟨_, _, unchanged, _⟩ := arguments_decide_relation .usual (passedOver ++ counted)
  obtain ⟨_, _, _, stops⟩ :=
    arguments_decide_relation .usual (replaced (.int unshowableNumber))
  refine ⟨reorders, (unchanged _ reorders _).mpr rfl, hasRelation_posts _, ?_⟩
  have exceeds := not_fitsUnder_of_le (Nat.le_refl unshowableNumber) (.inl rfl) .usual
  exact stops.mpr ⟨"fields", _, .head _, exceeds⟩ _ (hasRelation_posts _)

/-- Not every value that another one replaces is irrelevant: a number with too many digits stops the
program. -/
theorem not_every_replaced_value_is_irrelevant :
    ¬ ∀ value : Value, convert .usual (posts (replaced value))
      = convert .usual (posts [.keyed "fields" (.list [.text "authorId"])]) := by
  intro irrelevant
  have same := irrelevant (.int unshowableNumber)
  have exceeds : ¬ ∀ argument ∈ replaced (.int unshowableNumber),
      Relation.Fits .usual argument := fun fit =>
    not_fitsUnder_of_le (Nat.le_refl _) (.inl rfl) .usual (fit _ (.head _) _ _ rfl)
  obtain ⟨excess, stopped⟩ := stops_with_relation_iff.mpr exceeds _ (hasRelation_posts _)
  rw [stopped] at same
  have converted : (convert .usual (posts [.keyed "fields" (.list [.text "authorId"])])).outcome
      = .ok _ := rfl
  rw [← same] at converted
  cases converted

end PrismaEsdl.Program
