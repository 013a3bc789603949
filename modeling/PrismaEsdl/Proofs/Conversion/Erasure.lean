import Mathlib.Data.List.Basic
import PrismaEsdl.Program
import PrismaEsdl.Proofs.Conversion.Collecting
import PrismaEsdl.Proofs.Conversion.Outline
import PrismaEsdl.Proofs.Prisma.Reading

/-!
The parts of a schema that do not count.

Erasing drops what a conversion passes over, at every level of the tree: comments, other blocks,
block attributes, attributes of other kinds, and the arguments that say nothing about an attribute.
What is left has the same outlines (`Schema.alike_erased`), so the conversion is the same run, with
the same told. There is one way in which an erased part is noticed: an argument of a relation that
names the relation or what it refers to has to be shown, also where it is not read afterwards, and
not every value can be (`erased_parts_do_not_count`).
-/

namespace PrismaEsdl.Prisma

open Outcome (Alike bind_eq_ok_iff map_eq_map_of_forall₂)

/-! ### Erasing -/

/-- Whether an argument of a relation names its id fields. -/
def Value.namesIdFields : Value → Bool
  | keyed key _ => key = "fields"
  | _ => false

/-- An attribute without the arguments that say nothing, if it is of a kind that counts. -/
def AttributeDeclaration.erased? (declaration : AttributeDeclaration) :
    Option AttributeDeclaration :=
  if declaration.name = "unique" then some { declaration with arguments := [] }
  else if declaration.name = "default" then
    some { declaration with arguments := declaration.arguments.take 1 }
  else if declaration.name = "relation" then
    some { declaration with arguments := declaration.arguments.filter Value.namesIdFields }
  else none

/-- A field with the attributes that count. -/
def FieldDeclaration.erased (declaration : FieldDeclaration) : FieldDeclaration :=
  { declaration with
    attributes := declaration.attributes.filterMap AttributeDeclaration.erased? }

/-- A property that is a field, erased. -/
def Property.erased? (property : Property) : Option Property :=
  property.field?.map fun declaration => .field declaration.erased

/-- An enum item that is a value. -/
def EnumItem.erased? (item : EnumItem) : Option EnumItem := item.value?.map .value

/-- A declaration of an enum or a model, erased. -/
def Declaration.erased? : Declaration → Option Declaration
  | enum name items => some (.enum name (items.filterMap EnumItem.erased?))
  | model name properties => some (.model name (properties.filterMap Property.erased?))
  | comment _ | other _ _ => none

/-- A schema without the parts that do not count. -/
def Schema.erased (schema : Schema) : Schema :=
  ⟨schema.declarations.filterMap Declaration.erased?⟩

/-! ### What is left -/

namespace Relation

variable {stack : Stack} {relation other : Relation} {argument : Value} {arguments : List Value}

/-- An argument that names id fields names the same, whatever was said before. -/
theorem alike_takeArgument (named : argument.namesIdFields = true)
    (relation other : Relation) :
    Alike (fun next next' => next.fields = next'.fields) (takeArgument stack relation argument)
      (takeArgument stack other argument) := by
  cases argument with
  | keyed key value =>
      have isFields : key = "fields" := of_decide_eq_true named
      simp only [takeArgument, if_pos isFields]
      cases names stack value with
      | error excess => exact .error excess
      | ok found => exact .ok rfl
  | _ => cases named

theorem fields_takeArgument (unnamed : argument.namesIdFields = false) {next : Relation}
    (taken : takeArgument stack relation argument = .ok next) : next.fields = relation.fields := by
  cases argument with
  | keyed key value =>
      have notFields : ¬ key = "fields" := of_decide_eq_false unnamed
      simp only [takeArgument, if_neg notFields] at taken
      split at taken
      · obtain ⟨_, _, ⟨⟩⟩ := bind_eq_ok_iff.mp taken
        rfl
      · split at taken
        · obtain ⟨_, _, ⟨⟩⟩ := bind_eq_ok_iff.mp taken
          rfl
        · cases taken
          rfl
  | text t =>
      simp only [takeArgument] at taken
      split at taken <;>
        · cases taken
          rfl
  | _ =>
      cases taken
      rfl

/-- The id fields of a relation are those of its arguments that name them, as long as the others can
be shown. -/
theorem alike_foldlM_takeArgument
    (shown : ∀ argument ∈ arguments, argument.namesIdFields = false → Fits stack argument)
    (same : relation.fields = other.fields) :
    Alike (fun next next' => next.fields = next'.fields)
      ((arguments.filter Value.namesIdFields).foldlM (takeArgument stack) relation)
      (arguments.foldlM (takeArgument stack) other) := by
  induction arguments generalizing relation other with
  | nil => exact .ok same
  | cons argument rest ih =>
      obtain ⟨here, later⟩ := List.forall_mem_cons.mp shown
      rw [List.foldlM_cons]
      cases named : argument.namesIdFields with
      | true =>
          rw [List.filter_cons_of_pos named, List.foldlM_cons]
          exact (alike_takeArgument named relation other).bind fun _ _ same => ih later same
      | false =>
          obtain ⟨next, taken⟩ := (gives_takeArgument_iff other argument).mpr (here named)
          rw [List.filter_cons_of_neg (by simp [named]), taken]
          exact ih later (same.trans (fields_takeArgument named taken).symm)

end Relation

namespace AttributeDeclaration

/-- The arguments of an attribute that is a relation. -/
def relationArguments (declaration : AttributeDeclaration) : List Value :=
  if declaration.name = "relation" then declaration.arguments else []

/-- Whether all those arguments of a relation can be shown that are erased. -/
def ErasesShowable (stack : Stack) (declaration : AttributeDeclaration) : Prop :=
  ∀ argument ∈ declaration.relationArguments, argument.namesIdFields = false →
    Relation.Fits stack argument

end AttributeDeclaration

section

variable {stack : Stack}

/-- An attribute that is erased says nothing. -/
theorem FieldAttribute.ofDeclaration?_eq_none {declaration : AttributeDeclaration}
    (erased : declaration.erased? = none) : ofDeclaration? stack declaration = .ok none := by
  unfold AttributeDeclaration.erased? at erased
  unfold ofDeclaration?
  split at erased
  · cases erased
  · split at erased
    · cases erased
    · split at erased
      · cases erased
      · rename_i notUnique notDefault notRelation
        rw [if_neg notUnique, if_neg notDefault, if_neg notRelation]
        rfl

/-- What is left of an attribute says the same. -/
theorem FieldAttribute.alike_ofDeclaration? {declaration left : AttributeDeclaration}
    (shown : declaration.ErasesShowable stack) (erased : declaration.erased? = some left) :
    Alike (fun found found' => found.map bare = found'.map bare) (ofDeclaration? stack left)
      (ofDeclaration? stack declaration) := by
  unfold AttributeDeclaration.erased? at erased
  unfold ofDeclaration?
  split at erased
  · rename_i isUnique
    cases erased
    simp only [isUnique, if_true]
    exact .ok rfl
  · rename_i notUnique
    split at erased
    · rename_i isDefault
      cases erased
      simp only [isDefault, if_true]
      exact .ok (by rw [List.head?_take, if_neg Nat.one_ne_zero])
    · rename_i notDefault
      split at erased
      · rename_i isRelation
        cases erased
        simp only [isRelation, if_true]
        rw [AttributeDeclaration.ErasesShowable, AttributeDeclaration.relationArguments,
          if_pos isRelation] at shown
        refine (Relation.alike_foldlM_takeArgument shown rfl).bind fun relation other same => .ok ?_
        simp only [Option.map_some, bare, same]
      · cases erased

/-- What is left of the attributes of a field says the same, in the same order. -/
theorem FieldAttribute.alike_mapM_ofDeclaration? {declarations : List AttributeDeclaration}
    (shown : ∀ declaration ∈ declarations, declaration.ErasesShowable stack) :
    Alike (fun found found' => (found.filterMap id).map bare = (found'.filterMap id).map bare)
      ((declarations.filterMap AttributeDeclaration.erased?).mapM (ofDeclaration? stack))
      (declarations.mapM (ofDeclaration? stack)) := by
  induction declarations with
  | nil => exact .ok rfl
  | cons declaration rest ih =>
      obtain ⟨here, later⟩ := List.forall_mem_cons.mp shown
      rw [List.mapM_cons]
      cases erased : declaration.erased? with
      | none =>
          rw [List.filterMap_cons_none erased, ofDeclaration?_eq_none erased]
          have alike := ih later
          generalize (rest.filterMap AttributeDeclaration.erased?).mapM (ofDeclaration? stack)
            = first at alike ⊢
          generalize rest.mapM (ofDeclaration? stack) = second at alike ⊢
          cases alike with
          | error excess => exact .error excess
          | ok same => exact .ok same
      | some left =>
          rw [List.filterMap_cons_some erased, List.mapM_cons]
          refine (alike_ofDeclaration? here erased).bind fun found found' same => ?_
          refine (ih later).bind fun others others' sameOthers => .ok ?_
          cases found <;> cases found' <;> simp_all

/-- Whether all those arguments of the relations of a field can be shown that are erased. -/
def FieldDeclaration.ErasesShowable (stack : Stack) (declaration : FieldDeclaration) : Prop :=
  ∀ declared ∈ declaration.attributes, declared.ErasesShowable stack

/-- What is left of a field has the same outline. -/
theorem FieldDeclaration.alike_erased {declaration : FieldDeclaration}
    (shown : declaration.ErasesShowable stack) :
    Alike (fun field other => field.outline = other.outline)
      (Field.ofDeclaration stack declaration.erased) (Field.ofDeclaration stack declaration) := by
  have bare : ∀ found : List (Option FieldAttribute),
      (Table.ofList ((found.filterMap id).map fun a => (a.kind, a))).mapContents FieldAttribute.bare
        = .ofList (((found.filterMap id).map FieldAttribute.bare).map fun a => (a.kind, a)) := by
    intro found
    rw [Table.mapContents_ofList, List.map_map, List.map_map]
    congr 2
    funext recognized
    cases recognized <;> rfl
  simp only [Field.ofDeclaration, erased]
  cases FieldType.ofValue stack declaration.type with
  | error excess => exact .error excess
  | ok type =>
      refine (FieldAttribute.alike_mapM_ofDeclaration? shown).bind fun found found' same => .ok ?_
      refine Field.outline_eq_of_attributes rfl rfl rfl rfl fun kind => ?_
      rw [← Table.get?_mapContents, ← Table.get?_mapContents, bare, bare, same]

end

/-- The fields that are left of the properties of a model. -/
theorem Property.fields_erased (properties : List Property) :
    (properties.filterMap erased?).filterMap field?
      = (properties.filterMap field?).map FieldDeclaration.erased := by
  rw [List.filterMap_filterMap, List.map_filterMap]
  congr 1
  funext property
  cases property <;> rfl

/-- What is left of the properties of a model has the same outline. -/
theorem Model.alike_erased {stack : Stack} {name : Text} {properties : List Property}
    (shown : ∀ declaration ∈ properties.filterMap Property.field?,
      declaration.ErasesShowable stack) :
    Alike (fun model other => model.outline = other.outline)
      (ofProperties stack name (properties.filterMap Property.erased?))
      (ofProperties stack name properties) := by
  have outlined : ∀ fields : List Field,
      (Table.ofList (fields.map fun field => (field.name, field))).mapContents Field.outline
        = .ofList ((fields.map Field.outline).map fun outline => (outline.name, outline)) := by
    intro fields
    rw [Table.mapContents_ofList, List.map_map, List.map_map]
    rfl
  unfold ofProperties
  rw [Property.fields_erased]
  have each : List.Forall₂ (fun left declaration => Alike (fun field other =>
        field.outline = other.outline) (Field.ofDeclaration stack left)
          (Field.ofDeclaration stack declaration))
      ((properties.filterMap Property.field?).map FieldDeclaration.erased)
      (properties.filterMap Property.field?) :=
    List.forall₂_map_left_iff.mpr (List.forall₂_same.mpr fun declaration member =>
      FieldDeclaration.alike_erased (shown declaration member))
  refine (Alike.mapM each).bind fun fields others same => .ok ?_
  rw [outline, outline, outlined, outlined, map_eq_map_of_forall₂ same fun _ _ => id]

namespace Schema

/-- The models that are left of a schema. -/
theorem modelDeclarations_erased (schema : Schema) :
    schema.erased.declarations.filterMap Declaration.model?
      = (schema.declarations.filterMap Declaration.model?).map fun declared =>
          (declared.1, declared.2.filterMap Property.erased?) := by
  rw [erased, List.filterMap_filterMap, List.map_filterMap]
  congr 1
  funext declaration
  cases declaration <;> rfl

/-- Erasing a schema keeps its enums and their values. -/
theorem enumDeclarations_erased (schema : Schema) :
    schema.erased.enumDeclarations = schema.enumDeclarations := by
  have values : ∀ items : List EnumItem,
      (items.filterMap EnumItem.erased?).filterMap EnumItem.value?
        = items.filterMap EnumItem.value? := by
    intro items
    rw [List.filterMap_filterMap]
    congr 1
    funext item
    cases item <;> rfl
  have kept : schema.erased.declarations.filterMap Declaration.enum?
      = (schema.declarations.filterMap Declaration.enum?).map fun declared =>
          (declared.1, declared.2.filterMap EnumItem.erased?) := by
    rw [erased, List.filterMap_filterMap, List.map_filterMap]
    congr 1
    funext declaration
    cases declaration <;> rfl
  rw [enumDeclarations, enumDeclarations, kept, List.map_map]
  simp only [Function.comp_def, values]

/-- The arguments of the relations of the fields of a schema. -/
def relationArguments (schema : Schema) : List Value :=
  (schema.declarations.filterMap Declaration.model?).flatMap fun declared =>
    (declared.2.filterMap Property.field?).flatMap fun declaration =>
      declaration.attributes.flatMap AttributeDeclaration.relationArguments

/-- Whether all those arguments of relations can be shown that are erased. -/
def ErasesShowable (stack : Stack) (schema : Schema) : Prop :=
  ∀ argument ∈ schema.relationArguments, argument.namesIdFields = false →
    Relation.Fits stack argument

variable {stack : Stack} {schema : Schema}

/-- What is left of a schema has an index with the same outlines, or none for the same reason. -/
theorem alike_erased (shown : schema.ErasesShowable stack) :
    Alike (fun models models' =>
        models.mapContents Model.outline = models'.mapContents Model.outline)
      (schema.erased.models stack) (schema.models stack) := by
  have outlined : ∀ models : List Model,
      (Table.ofList (models.map fun model => (model.name, model))).mapContents Model.outline
        = .ofList ((models.map Model.outline).map fun outline => (outline.name, outline)) := by
    intro models
    rw [Table.mapContents_ofList, List.map_map, List.map_map]
    rfl
  have each : List.Forall₂ (fun (left declared : Text × List Property) => Alike (fun model other =>
        model.outline = other.outline) (Model.ofProperties stack left.1 left.2)
          (Model.ofProperties stack declared.1 declared.2))
      ((schema.declarations.filterMap Declaration.model?).map fun declared =>
        (declared.1, declared.2.filterMap Property.erased?))
      (schema.declarations.filterMap Declaration.model?) := by
    refine List.forall₂_map_left_iff.mpr (List.forall₂_same.mpr fun declared member => ?_)
    refine Model.alike_erased fun declaration member' attributed member'' argument given => ?_
    exact shown argument (List.mem_flatMap.mpr ⟨declared, member, List.mem_flatMap.mpr
      ⟨declaration, member', List.mem_flatMap.mpr ⟨attributed, member'', given⟩⟩⟩)
  unfold models
  rw [modelDeclarations_erased]
  refine (Alike.mapM each).bind fun models others same => .ok ?_
  rw [outlined, outlined, map_eq_map_of_forall₂ same fun _ _ => id]

/-- A schema of which something is erased that cannot be shown has no index. -/
theorem erasesShowable_of_fits (fits : schema.Fits stack) : schema.ErasesShowable stack := by
  intro argument given _
  obtain ⟨declared, member, given⟩ := List.mem_flatMap.mp given
  obtain ⟨declaration, member', given⟩ := List.mem_flatMap.mp given
  obtain ⟨attributed, member'', given⟩ := List.mem_flatMap.mp given
  unfold AttributeDeclaration.relationArguments at given
  split at given
  · rename_i isRelation
    exact (fits declared member declaration member').attributes attributed member'' isRelation
      argument given
  · cases given

end Schema

end PrismaEsdl.Prisma

namespace PrismaEsdl.Program

open Prisma (Value Relation)

/-- Where all that is erased can be shown, the program does not notice that it is gone. -/
theorem convert_erased {stack : Stack} {schema : Prisma.Schema}
    (shown : schema.ErasesShowable stack) : convert stack schema.erased = convert stack schema := by
  unfold convert
  rw [Conversion.convert_congr (Prisma.Schema.alike_erased shown)
    (Prisma.Schema.enumDeclarations_erased schema)]

/-- Where something cannot be shown that is erased, the program stops. -/
theorem convert_of_not_erasesShowable {stack : Stack} {schema : Prisma.Schema}
    (hidden : ¬ schema.ErasesShowable stack) :
    ∃ excess, convert stack schema = .stop (.excessive excess) := by
  cases indexed : schema.models stack with
  | error excess =>
      refine ⟨excess, ?_⟩
      rw [convert, Conversion.convert_of_excess indexed]
      rfl
  | ok models =>
      have fits := Prisma.Schema.gives_models_iff.mp ⟨models, indexed⟩
      exact absurd (Prisma.Schema.erasesShowable_of_fits fits) hidden

/-- The parts that are erased from a schema do not count, exactly as long as all of them can be
shown: the program runs on what is left as it runs on the schema, with the same schema or the same
error. It stops where the name of a relation, or what it refers to, is a value that cannot be. -/
theorem erased_parts_do_not_count (stack : Stack) (schema : Prisma.Schema) :
    (schema.ErasesShowable stack → convert stack schema.erased = convert stack schema) ∧
      (¬ schema.ErasesShowable stack →
        ∃ excess, convert stack schema = .stop (.excessive excess)) :=
  ⟨convert_erased, convert_of_not_erasesShowable⟩

/-- A schema of posts with parts at every level that do not count. -/
def annotated : Prisma.Schema := ⟨[
  .comment "// Posts and their state",
  .other "generator" "client",
  .enum "State" [.comment "// not yet public", .value "DRAFT", .value "PUBLIC"],
  .model "Post" [
    .comment "// by its address",
    .field ⟨"address", .text "String", false, false,
      [⟨"id", []⟩, ⟨"unique", [.keyed "map" (.text "post_address")]⟩]⟩,
    .field ⟨"state", .text "State", false, false,
      [⟨"default", [.text "DRAFT", .keyed "map" (.text "post_state")]⟩]⟩,
    .field ⟨"parent", .text "Post", false, true,
      [⟨"relation", [.text "Parent", .keyed "fields" (.list [.text "parentAddress"]),
        .keyed "references" (.list [.text "address"])]⟩]⟩,
    .blockAttribute ⟨"map", [.text "posts"]⟩]]⟩

/-- What is left of it. -/
def bare : Prisma.Schema := ⟨[
  .enum "State" [.value "DRAFT", .value "PUBLIC"],
  .model "Post" [
    .field ⟨"address", .text "String", false, false, [⟨"unique", []⟩]⟩,
    .field ⟨"state", .text "State", false, false, [⟨"default", [.text "DRAFT"]⟩]⟩,
    .field ⟨"parent", .text "Post", false, true,
      [⟨"relation", [.keyed "fields" (.list [.text "parentAddress"])]⟩]⟩]]⟩

theorem annotated_is_bare :
    annotated.erased = bare ∧ annotated.ErasesShowable .usual ∧
      convert .usual bare = convert .usual annotated := by
  have left : annotated.erased = bare := rfl
  have shown : annotated.ErasesShowable .usual := by
    intro argument member unnamed
    rcases List.mem_cons.mp member with rfl | member
    · exact nofun
    rcases List.mem_cons.mp member with rfl | member
    · cases unnamed
    rcases List.mem_singleton.mp member with rfl
    rintro _ _ ⟨⟩
    refine ⟨fun _ item member => ?_, fun isName => absurd isName (by decide)⟩
    rcases List.mem_singleton.mp member with rfl
    exact ⟨rfl, Nat.zero_le _⟩
  exact ⟨left, shown, left ▸ (erased_parts_do_not_count .usual annotated).1 shown⟩

/-- Posts with an author, the relation of which refers to a number. -/
def numbered (n : Nat) : Prisma.Schema := ⟨[
  .model "User" [.field ⟨"email", .text "String", false, false, []⟩],
  .model "Post" [.field ⟨"author", .text "User", false, false,
    [⟨"relation", [.keyed "references" (.int n)]⟩]⟩]]⟩

/-- A number with too many digits cannot be shown among names, however much room there is. -/
theorem not_fitsUnder_of_le {n : Nat} (great : Prisma.Reading.unshowableNumber ≤ n) {key : Text}
    (read : key = "fields" ∨ key = "references") (stack : Stack) :
    ¬ Relation.FitsUnder stack key (.int n) := by
  intro fits
  have shown : (Value.int n).Fits (stack.room .relationValue) := fits.1 read
  have showable : Text.isShowable n = true := shown.1
  rw [Prisma.Reading.isShowable_eq_false_of_le great] at showable
  cases showable

theorem not_erasesShowable_numbered {n : Nat} (great : Prisma.Reading.unshowableNumber ≤ n)
    (stack : Stack) : ¬ (numbered n).ErasesShowable stack :=
  fun shown => not_fitsUnder_of_le great (.inr rfl) stack (shown _ (.head _) rfl _ _ rfl)

/-- Erased parts are noticed in general: a schema that is converted without a number stops the
program because the number has too many digits. -/
theorem not_all_erased_parts_unnoticed :
    ¬ ∀ schema : Prisma.Schema,
      (convert .usual schema.erased).outcome = (convert .usual schema).outcome := by
  intro unnoticed
  have same := unnoticed (numbered Prisma.Reading.unshowableNumber)
  obtain ⟨excess, stopped⟩ :=
    convert_of_not_erasesShowable (not_erasesShowable_numbered (Nat.le_refl _) .usual)
  rw [stopped] at same
  cases same

end PrismaEsdl.Program
