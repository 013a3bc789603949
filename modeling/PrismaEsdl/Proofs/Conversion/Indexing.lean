import PrismaEsdl.Proofs.Conversion.Erasure

/-!
The indexes of a schema.

There is an index at every level: of the models of a schema, of the fields of a model, of the
attributes of a field, and of the enums. Each of them is made of a list of nodes, some of which have
an entry, and keeps first positions and last contents (`Table.Indexes`). What a superseded
declaration says is in no index. All that is declared has to be shown for an index, however, and
then it does not matter whether its declaration is superseded: where something cannot be, the
program stops before it has any index (`index_first_positions_last_contents`).
-/

namespace PrismaEsdl.Prisma

open Outcome (bind_eq_ok_iff mapM_eq_ok_iff map_eq_map_of_mapM)

/-! ### Entries -/

/-- The entry of an enum in the index of the enums. -/
def Declaration.enumEntry? : Declaration → Option (Text × List Text)
  | enum name items => some (name, items.filterMap EnumItem.value?)
  | model _ _ | comment _ | other _ _ => none

/-- The entry of a declaration in the index of the models, with what is made of it. -/
def Declaration.modelEntry? (stack : Stack) : Declaration → Option (Text × Except Excess Model)
  | model name properties => some (name, Model.ofProperties stack name properties)
  | enum _ _ | comment _ | other _ _ => none

/-- The entry of a property in the index of the fields of a model. -/
def Property.fieldEntry? (stack : Stack) : Property → Option (Text × Except Excess Field)
  | field declaration => some (declaration.name, Field.ofDeclaration stack declaration)
  | blockAttribute _ | comment _ => none

/-- The entry of an attribute in the index of the attributes of a field. -/
def AttributeDeclaration.entry? (stack : Stack) (declaration : AttributeDeclaration) :
    Option (AttributeKind × Except Excess (Option FieldAttribute)) :=
  declaration.kind?.map fun kind => (kind, FieldAttribute.ofDeclaration? stack declaration)

/-! ### Indexes -/

section

variable {stack : Stack}

theorem Schema.models_indexes {schema : Schema} {models : Table Text Model}
    (indexed : schema.models stack = .ok models) :
    (models.mapContents Except.ok).Indexes schema.declarations
      (Declaration.modelEntry? stack) := by
  rw [mapContents_models indexed]
  apply Table.indexes_ofList_picked
  intro declaration
  cases declaration <;> rfl

theorem Schema.enums_indexes (schema : Schema) :
    schema.enums.Indexes schema.declarations Declaration.enumEntry? := by
  apply Table.indexes_ofList_picked
  intro declaration
  cases declaration <;> rfl

theorem Model.fields_indexes {name : Text} {properties : List Property} {model : Model}
    (made : ofProperties stack name properties = .ok model) :
    (model.fields.mapContents Except.ok).Indexes properties (Property.fieldEntry? stack) := by
  obtain ⟨fields, declared, ⟨⟩⟩ := bind_eq_ok_iff.mp made
  have indexes : (Table.ofList ((properties.filterMap Property.field?).map fun declaration =>
      (declaration.name, Field.ofDeclaration stack declaration))).Indexes properties
        (Property.fieldEntry? stack) := by
    apply Table.indexes_ofList_picked
    intro property
    cases property <;> rfl
  rw [Table.mapContents_ofList, List.map_map]
  have entries : ((properties.filterMap Property.field?).map fun declaration =>
        (declaration.name, Field.ofDeclaration stack declaration))
      = fields.map fun field => (field.name, Except.ok field) :=
    map_eq_map_of_mapM declared fun declaration field here => by
      rw [here, Field.name_of_ofDeclaration here]
  rw [entries] at indexes
  exact indexes

theorem Field.attributes_indexes {declaration : FieldDeclaration} {field : Field}
    (made : ofDeclaration stack declaration = .ok field) :
    (field.attributes.mapContents fun said => Except.ok (some said)).Indexes
      declaration.attributes (AttributeDeclaration.entry? stack) := by
  obtain ⟨type, _, made'⟩ := bind_eq_ok_iff.mp made
  obtain ⟨attributes, declared, ⟨⟩⟩ := bind_eq_ok_iff.mp made'
  clear made made'
  have entries : (attributes.filterMap id).map
        (fun said => (said.kind, Except.ok (ε := Excess) (some said)))
      = declaration.attributes.filterMap (AttributeDeclaration.entry? stack) := by
    rw [mapM_eq_ok_iff] at declared
    generalize declaration.attributes = declarations at declared ⊢
    induction declared with
    | nil => rfl
    | @cons declaration found _ _ here _ ih =>
        have kind := FieldAttribute.kind?_eq here
        cases found with
        | none => simpa [AttributeDeclaration.entry?, kind] using ih
        | some said => simpa [AttributeDeclaration.entry?, kind, here] using ih
  rw [Table.mapContents_ofList, List.map_map]
  have indexes := Table.indexes_ofList declaration.attributes (AttributeDeclaration.entry? stack)
  rw [← entries] at indexes
  exact indexes

end

end PrismaEsdl.Prisma

namespace PrismaEsdl.Program

open Log (Event Run)
open Prisma (AttributeDeclaration Declaration Field FieldDeclaration Model Property)

variable {stack : Stack} {schema : Prisma.Schema}

/-- The program begins by telling the names of the models, once it has an index of them. -/
theorem exists_events_convert {models : Table Text Model}
    (indexed : schema.models stack = .ok models) :
    ∃ later, (convert stack schema).events = .modelsIndexed models.keys :: later := by
  have told : (convert stack schema).events = (Conversion.convert stack schema).events := rfl
  rw [told, Conversion.convert_of_models indexed]
  exact ⟨_, Run.events_bind_of_ok (Run.outcome_tell _) _⟩

/-- Else it stops before it tells anything. -/
theorem convert_of_not_fits (exceeds : ¬ schema.Fits stack) :
    ∃ excess, convert stack schema = .stop (.excessive excess) := by
  cases indexed : schema.models stack with
  | ok models => exact absurd (Prisma.Schema.gives_models_iff.mp ⟨models, indexed⟩) exceeds
  | error excess =>
      refine ⟨excess, ?_⟩
      rw [convert, Conversion.convert_of_excess indexed]
      rfl

/-- The indexes of a schema keep first positions and last contents at every level: those of the
models and of the enums over all declarations, that of the fields over the properties of a model,
and that of the kinds of attributes over the attributes of a field. There is an index of the models,
and the program tells their names first, exactly if all that is declared can be shown, the types and
the relations of all fields; where something cannot be, also in a superseded declaration, the
program stops before it tells anything. -/
theorem index_first_positions_last_contents (stack : Stack) (schema : Prisma.Schema) :
    (schema.Fits stack → ∃ models later, schema.models stack = .ok models ∧
      (models.mapContents Except.ok).Indexes schema.declarations
        (Declaration.modelEntry? stack) ∧
      (convert stack schema).events = .modelsIndexed models.keys :: later) ∧
    (¬ schema.Fits stack → ∃ excess, convert stack schema = .stop (.excessive excess)) ∧
    (∀ (name : Text) (properties : List Property) (model : Model),
      Model.ofProperties stack name properties = .ok model →
        (model.fields.mapContents Except.ok).Indexes properties (Property.fieldEntry? stack)) ∧
    (∀ (declaration : FieldDeclaration) (field : Field),
      Field.ofDeclaration stack declaration = .ok field →
        (field.attributes.mapContents fun said => Except.ok (some said)).Indexes
          declaration.attributes (AttributeDeclaration.entry? stack)) ∧
    schema.enums.Indexes schema.declarations Declaration.enumEntry? := by
  refine ⟨fun fits => ?_, convert_of_not_fits, fun _ _ _ => Model.fields_indexes,
    fun _ _ => Field.attributes_indexes, schema.enums_indexes⟩
  obtain ⟨models, indexed⟩ := Prisma.Schema.gives_models_iff.mpr fits
  obtain ⟨later, begins⟩ := exists_events_convert indexed
  exact ⟨models, later, indexed, Prisma.Schema.models_indexes indexed, begins⟩

/-- Two declarations of a model, the first of which has a relation that refers to a number. -/
def superseded (n : Nat) : Prisma.Schema := ⟨[
  .model "User" [.field ⟨"email", .text "String", false, false, []⟩],
  .model "Post" [.field ⟨"author", .text "User", false, false,
    [⟨"relation", [.keyed "references" (.int n)]⟩]⟩],
  .model "Post" [.field ⟨"title", .text "String", false, false, []⟩]]⟩

/-- That relation has to be shown, too. -/
theorem not_fits_superseded {n : Nat} (great : Prisma.Reading.unshowableNumber ≤ n)
    (stack : Stack) : ¬ (superseded n).Fits stack := by
  intro fits
  have field := fits _ (.tail _ (.head _)) _ (.head _)
  exact not_fitsUnder_of_le great (.inr rfl) stack
    (field.attributes _ (.head _) rfl _ (.head _) _ _ rfl)

/-- Not every schema is indexed: a number with too many digits stops the program, though another
declaration takes the place of the one that has it. -/
theorem not_every_schema_is_indexed :
    ¬ ∀ schema : Prisma.Schema, ∃ models later, schema.models .usual = .ok models ∧
      (convert .usual schema).events = .modelsIndexed models.keys :: later := by
  intro indexed
  obtain ⟨models, _, made, _⟩ := indexed (superseded Prisma.Reading.unshowableNumber)
  exact not_fits_superseded (Nat.le_refl _) .usual
    (Prisma.Schema.gives_models_iff.mp ⟨models, made⟩)

end PrismaEsdl.Program
