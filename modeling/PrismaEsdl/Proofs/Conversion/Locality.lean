import PrismaEsdl.Proofs.Conversion.Outline
import PrismaEsdl.Proofs.Conversion.Pairing

/-!
What the object type of a model depends on.

Around a model, only what its fields mention counts: whether the type of a field is a declared
model, whether it is an enum, and which relations of the declared model lead back. Where two schemas
agree on this, the model is converted in the same way in both of them, with the same object type or
the same error, and with the same events. Declarations of models that no field mentions may be
added, removed or edited (`conversion_is_local`).
-/

namespace PrismaEsdl.Prisma

namespace Model

/-- Whether the type of some field of a model is a name. -/
def mentions (model : Model) (type : Text) : Bool :=
  model.fields.contents.any fun field => field.typeName? == some type

/-- Whether a declaration may count for a model: those of models that it does not mention do not. -/
def isConcernedBy (model : Model) (declaration : Declaration) : Bool :=
  match declaration.model? with
  | some (name, _) => model.mentions name
  | none => true

theorem mentions_iff {model : Model} {type : Text} :
    model.mentions type = true ↔
      ∃ field ∈ model.fields.contents, field.typeName? = some type := by
  simp [mentions]

end Model

namespace Schema

variable {model : Model}

/-- The declarations of a schema that concern a model. -/
def around (schema : Schema) (model : Model) : Schema :=
  ⟨schema.declarations.filter model.isConcernedBy⟩

/-- The models that a model mentions are made of declarations that concern it. -/
theorem get?_models_around {stack : Stack} {schema : Schema} {models : Table Text Model}
    (indexed : schema.models stack = .ok models) {type : Text}
    (mentioned : model.mentions type = true) :
    (models.get? type).map Except.ok
      = (Table.ofList (((schema.around model).declarations.filterMap Declaration.model?).map
          fun declared =>
            (declared.1, Model.ofProperties stack declared.1 declared.2))).get? type := by
  have pairs : ∀ declarations : List Declaration,
      ((declarations.filter model.isConcernedBy).filterMap Declaration.model?).map
          (fun declared => (declared.1, Model.ofProperties stack declared.1 declared.2))
        = ((declarations.filterMap Declaration.model?).map
          (fun declared => (declared.1, Model.ofProperties stack declared.1 declared.2))).filter
            fun pair => model.mentions pair.1 := by
    intro declarations
    induction declarations with
    | nil => rfl
    | cons declaration rest ih =>
        cases declaration with
        | model name properties =>
            cases kept : model.mentions name <;>
              simp [Model.isConcernedBy, Declaration.model?, kept, ih]
        | enum _ _ | comment _ | other _ _ => exact ih
  rw [← Table.get?_mapContents, mapContents_models indexed, around, pairs]
  exact (Table.get?_ofList_filter _ mentioned).symm

/-- All enums are among the declarations that concern a model. -/
theorem enums_around (schema : Schema) (model : Model) :
    (schema.around model).enums = schema.enums := by
  have kept : ∀ declarations : List Declaration,
      (declarations.filter model.isConcernedBy).filterMap Declaration.enum?
        = declarations.filterMap Declaration.enum? := by
    intro declarations
    rw [List.filterMap_filter]
    congr 1
    funext declaration
    cases declaration with
    | model name properties => exact ite_self none
    | enum _ _ | comment _ | other _ _ => rfl
  rw [enums, enums, enumDeclarations, enumDeclarations, around, kept]

end Schema

end PrismaEsdl.Prisma

namespace PrismaEsdl.Conversion

open Prisma Esdl Log

/-- Two surroundings agree around a model: of the types that its fields mention, the same are
declared models and the same are enums in both, and the relations of the declared ones that lead
back to the model have the same names, in the same order. -/
structure AgreeAround (model : Model) (models models' : Table Text Model)
    (enums enums' : Table Text (List Text)) : Prop where
  declared : ∀ type, model.mentions type = true → (type ∈ models.keys ↔ type ∈ models'.keys)
  enumerated : ∀ type, model.mentions type = true → (type ∈ enums.keys ↔ type ∈ enums'.keys)
  related : ∀ type, model.mentions type = true → ∀ target target',
    models.get? type = some target → models'.get? type = some target' →
      (target.relationsTo model.name).map Field.name
        = (target'.relationsTo model.name).map Field.name

section

variable {stack : Stack} {model : Model} {schema other : Prisma.Schema}
  {models models' : Table Text Model} (indexed : schema.models stack = .ok models)
  (indexed' : other.models stack = .ok models')

include indexed indexed'

/-- Where two schemas agree around a model, they look alike to its fields. -/
theorem AgreeAround.lookAlike
    (agree : AgreeAround model models models' schema.enums other.enums) {type : Text}
    (mentioned : model.mentions type = true) :
    LookAlike models models' schema.enums other.enums model.name type where
  counterpart := by
    have known := agree.declared type mentioned
    unfold counterpart?
    cases found : models.get? type with
    | none =>
        have unknown := mt known.mpr (Table.get?_eq_none_iff.mp found)
        rw [Table.get?_eq_none_iff.mpr unknown]
    | some target =>
        have declared := Table.mem_keys_of_mem_entries (Table.get?_eq_some_iff.mp found)
        obtain ⟨target', recorded⟩ := Table.exists_content_of_mem_keys (known.mp declared)
        have found' := Table.get?_eq_some_iff.mpr recorded
        have named : target.name = target'.name :=
          ((Schema.get?_models_iff indexed).mp found).2.trans
            ((Schema.get?_models_iff indexed').mp found').2.symm
        rw [found', Option.map_some, Option.map_some, named,
          agree.related type mentioned target target' found found']
  enumerated := by
    rw [Bool.eq_iff_iff, Table.contains_iff_mem_keys, Table.contains_iff_mem_keys]
    exact agree.enumerated type mentioned

/-- Schemas with the same declarations that concern a model agree around it. -/
theorem agreeAround_of_around_eq (same : schema.around model = other.around model) :
    AgreeAround model models models' schema.enums other.enums := by
  have sameModel : ∀ type, model.mentions type = true → models.get? type = models'.get? type := by
    intro type mentioned
    have injective : Function.Injective (Except.ok : Model → Except Excess Model) :=
      fun _ _ => Except.ok.inj
    refine Option.map_injective injective ?_
    rw [Schema.get?_models_around indexed mentioned, same,
      Schema.get?_models_around indexed' mentioned]
  have sameEnums : schema.enums = other.enums := by
    rw [← Schema.enums_around schema model, same, Schema.enums_around]
  constructor
  case declared =>
    intro type mentioned
    rw [← Decidable.not_iff_not, ← Table.get?_eq_none_iff, ← Table.get?_eq_none_iff,
      sameModel type mentioned]
  case enumerated =>
    intro type _
    rw [sameEnums]
  case related =>
    intro type mentioned target target' found found'
    rw [sameModel type mentioned, found'] at found
    rw [Option.some.inj found]

end

/-- The conversion of a model is local. Two schemas agree around it, in particular, if they have the
same declarations apart from those of models that none of its fields mentions. Where they agree, the
model has the same object type in both or is refused with the same error in both, and the same is
told on the way; so if both schemas are converted and declare the model, its type is the same. -/
theorem conversion_is_local {stack : Stack} {model : Model} {schema other : Prisma.Schema}
    {models models' : Table Text Model} (indexed : schema.models stack = .ok models)
    (indexed' : other.models stack = .ok models')
    (agree : AgreeAround model models models' schema.enums other.enums ∨
      schema.around model = other.around model) :
    objectType stack models schema.enums model = objectType stack models' other.enums model ∧
      ∀ result result', (convert stack schema).outcome = .ok result →
        (convert stack other).outcome = .ok result' →
        model ∈ models.contents → model ∈ models'.contents →
          result.types.get? model.name = result'.types.get? model.name := by
  have around : AgreeAround model models models' schema.enums other.enums :=
    agree.elim id (agreeAround_of_around_eq indexed indexed')
  have same : objectType stack models schema.enums model
      = objectType stack models' other.enums model :=
    objectType_congr rfl fun field member type typed =>
      around.lookAlike indexed indexed' (Model.mentions_iff.mpr ⟨field, member, typed⟩)
  refine ⟨same, ?_⟩
  intro result result' converted converted' declared declared'
  obtain ⟨type, recorded, outcome⟩ := exists_type_of_convert indexed converted declared
  obtain ⟨type', recorded', outcome'⟩ := exists_type_of_convert indexed' converted' declared'
  rw [same, outcome'] at outcome
  cases outcome
  rw [Table.get?_eq_some_iff.mpr recorded, Table.get?_eq_some_iff.mpr recorded']

/-- Posts and their users. -/
def authored (userProperties : List Property) : Prisma.Schema :=
  ⟨[.model "User" userProperties, .model "Post" (postProperties [])]⟩

/-- Posts and their users, who have addresses. -/
def addressed : Prisma.Schema := authored [.field ⟨"email", .text "String", false, false, []⟩]

theorem posts_do_not_see_addresses :
    ∃ posts models models', ((authored []).models .usual = .ok models ∧
        addressed.models .usual = .ok models' ∧ posts ∈ models.contents ∧
        posts ∈ models'.contents) ∧
      (AgreeAround posts models models' (authored []).enums addressed.enums ∨
        (authored []).around posts = addressed.around posts) ∧
      objectType .usual models (authored []).enums posts
        = objectType .usual models' addressed.enums posts ∧
      ∀ result result', (convert .usual (authored [])).outcome = .ok result →
        (convert .usual addressed).outcome = .ok result' →
        posts ∈ models.contents → posts ∈ models'.contents →
          result.types.get? posts.name = result'.types.get? posts.name := by
  have indexed : (authored []).models .usual = .ok _ := rfl
  have indexed' : addressed.models .usual = .ok _ := rfl
  refine ⟨_, _, _, ⟨indexed, indexed', .tail _ (.head _), .tail _ (.head _)⟩, ?_⟩
  refine (fun agree => ⟨.inl agree, conversion_is_local indexed indexed' (.inl agree)⟩ :
    AgreeAround _ _ _ _ _ → _) ?_
  refine ⟨fun _ _ => Iff.rfl, fun _ _ => Iff.rfl, ?_⟩
  intro type mentioned target target' found found'
  obtain ⟨field, member, typed⟩ := Model.mentions_iff.mp mentioned
  cases member with
  | head =>
      cases typed
      cases found
      cases found'
      rfl
  | tail _ later =>
      cases later with
      | head =>
          cases typed
          cases found
      | tail _ none => cases none

end PrismaEsdl.Conversion
