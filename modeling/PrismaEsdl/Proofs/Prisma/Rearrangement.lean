import Mathlib.Data.List.Forall2
import Mathlib.Data.List.Nodup
import Mathlib.Data.Multiset.Defs
import PrismaEsdl.Proofs.Conversion.Outline

/-!
Schemas that say the same in another order.

A schema is rearranged by putting its declarations in another order, the properties of its models,
and the attributes of its fields. There is an index of it in any order or in none
(`fits_iff_of_rearranges`). Where names are distinct, the index does not see the order: what it
holds under a name is the same, up to the order of the fields of a model
(`alikeIndexes_of_rearranges`).
-/

namespace PrismaEsdl.Prisma

open Outcome (Gives bind_eq_ok_iff map_eq_map_of_mapM map_toOption_eq)

/-! ### Lists in another order -/

section

variable {α β : Type} {related : α → α → Prop} {xs ys : List α}

/-- A list is rearranged to another if its members, in some order, are related to those of the other
in turn. -/
def Rearranged (related : α → α → Prop) (xs ys : List α) : Prop :=
  ∃ order, xs.Perm order ∧ List.Forall₂ related order ys

theorem filterMap_eq_of_forall₂ {f : α → Option β} (paired : List.Forall₂ related xs ys)
    (same : ∀ x ∈ xs, ∀ y, related x y → f x = f y) : xs.filterMap f = ys.filterMap f := by
  induction paired with
  | nil => rfl
  | @cons x y xs ys here _ ih =>
      have later := ih fun x member => same x (List.mem_cons_of_mem _ member)
      rw [List.filterMap_cons, List.filterMap_cons, same x List.mem_cons_self y here, later]

/-- What is taken alike from related members is taken, in some order, from a rearranged list. -/
theorem Rearranged.perm_filterMap {f : α → Option β} (rearranged : Rearranged related xs ys)
    (same : ∀ x ∈ xs, ∀ y, related x y → f x = f y) :
    (xs.filterMap f).Perm (ys.filterMap f) := by
  obtain ⟨order, reordered, paired⟩ := rearranged
  rw [← filterMap_eq_of_forall₂ paired fun x member => same x (reordered.mem_iff.mpr member)]
  exact reordered.filterMap f

theorem forall_iff_of_perm_map {p : α → Prop} (same : (xs.map p).Perm (ys.map p)) :
    (∀ x ∈ xs, p x) ↔ ∀ y ∈ ys, p y := by
  have listed : ∀ zs : List α, (∀ z ∈ zs, p z) ↔ ∀ q ∈ zs.map p, q :=
    fun _ => (List.forall_mem_map (P := fun q : Prop => q)).symm
  rw [listed, listed]
  simp only [same.mem_iff]

/-- The results of a list in another order are the results in another order. -/
theorem perm_of_mapM {step : α → Except Excess β} {results results' : List β} (perm : xs.Perm ys)
    (made : xs.mapM step = .ok results) (made' : ys.mapM step = .ok results') :
    results.Perm results' := by
  have steps := perm.map step
  rw [map_eq_map_of_mapM (g := Except.ok) made fun _ _ => id,
    map_eq_map_of_mapM (g := Except.ok) made' fun _ _ => id] at steps
  exact (List.map_perm_map_iff fun _ _ => Except.ok.inj).mp steps

end

/-! ### Rearranging -/

/-- Two fields that differ in the order of their attributes at most. -/
structure FieldDeclaration.Rearranges (declaration other : FieldDeclaration) : Prop where
  name : declaration.name = other.name
  type : declaration.type = other.type
  array : declaration.array = other.array
  optional : declaration.optional = other.optional
  attributes : declaration.attributes.Perm other.attributes

/-- Two properties of which the fields are rearranged. -/
inductive Property.Rearranges : Property → Property → Prop where
  | field {declaration other : FieldDeclaration} (inner : declaration.Rearranges other) :
      Rearranges (.field declaration) (.field other)
  | blockAttribute (declaration : AttributeDeclaration) :
      Rearranges (.blockAttribute declaration) (.blockAttribute declaration)
  | comment (text : Text) : Rearranges (.comment text) (.comment text)

/-- Two declarations of which the models are rearranged. -/
inductive Declaration.Rearranges : Declaration → Declaration → Prop where
  | enum (name : Text) (items : List EnumItem) : Rearranges (.enum name items) (.enum name items)
  | model (name : Text) {properties other : List Property}
      (inner : Rearranged Property.Rearranges properties other) :
      Rearranges (.model name properties) (.model name other)
  | comment (text : Text) : Rearranges (.comment text) (.comment text)
  | other (kind name : Text) : Rearranges (.other kind name) (.other kind name)

/-- A schema is rearranged in its declarations, their properties, and the attributes of these. -/
def Schema.Rearranges (schema other : Schema) : Prop :=
  Rearranged Declaration.Rearranges schema.declarations other.declarations

/-! ### Distinct names -/

/-- The names of the attributes that count. -/
def AttributeKind.name : AttributeKind → Text
  | relation => "relation"
  | default => "default"
  | unique => "unique"

/-- Whether an attribute of this name counts. -/
def AttributeKind.isName (name : Text) : Bool :=
  [relation, default, unique].any (·.name = name)

/-- The fields of a model have distinct names, and those attributes of each field that count. -/
structure Property.HaveDistinctNames (properties : List Property) : Prop where
  fields : ((properties.filterMap field?).map FieldDeclaration.name).Nodup
  attributes : ∀ declaration ∈ properties.filterMap field?,
    ((declaration.attributes.map AttributeDeclaration.name).filter AttributeKind.isName).Nodup

/-- The enums of a schema have distinct names, its models, and the fields and attributes of each
model. -/
structure Schema.HasDistinctNames (schema : Schema) : Prop where
  enums : (schema.enumDeclarations.map Prod.fst).Nodup
  models : ((schema.declarations.filterMap Declaration.model?).map Prod.fst).Nodup
  inner : ∀ declared ∈ schema.declarations.filterMap Declaration.model?,
    Property.HaveDistinctNames declared.2

/-! ### Fields -/

/-- An attribute has a kind exactly if its name is that of a kind. -/
theorem AttributeDeclaration.name_kind? (declaration : AttributeDeclaration) :
    declaration.kind?.map AttributeKind.name
      = Option.guard AttributeKind.isName declaration.name := by
  unfold kind?
  by_cases unique : declaration.name = "unique"
  · rw [unique]
    rfl
  by_cases default : declaration.name = "default"
  · rw [default]
    rfl
  by_cases relation : declaration.name = "relation"
  · rw [relation]
    rfl
  · simp [unique, default, relation, Option.guard, AttributeKind.isName, AttributeKind.name,
      eq_comm]

section

variable {stack : Stack}

/-- Where the names of the attributes that count are distinct, their kinds are. -/
theorem FieldAttribute.kinds_nodup {declarations : List AttributeDeclaration}
    {found : List (Option FieldAttribute)}
    (made : declarations.mapM (ofDeclaration? stack) = .ok found)
    (distinct : ((declarations.map AttributeDeclaration.name).filter AttributeKind.isName).Nodup) :
    ((found.filterMap id).map kind).Nodup := by
  have kinds : declarations.map AttributeDeclaration.kind? = found.map (Option.map kind) :=
    map_eq_map_of_mapM made fun _ _ => kind?_eq
  have names : ((found.filterMap id).map kind).map AttributeKind.name
      = (declarations.map AttributeDeclaration.name).filter AttributeKind.isName := by
    have said : (found.filterMap id).map kind = (found.map (Option.map kind)).filterMap id := by
      rw [List.map_filterMap, List.filterMap_map]
      rfl
    rw [said, ← kinds, List.filterMap_map, List.map_filterMap, ← List.filterMap_eq_filter,
      List.filterMap_map]
    exact List.filterMap_congr fun declaration _ => declaration.name_kind?
  exact List.Nodup.of_map AttributeKind.name (names ▸ distinct)

namespace FieldDeclaration.Rearranges

variable {declaration other : FieldDeclaration} (rearranges : declaration.Rearranges other)

include rearranges

/-- A field can be shown in any order of its attributes. -/
theorem fits_iff : declaration.Fits stack ↔ other.Fits stack := by
  constructor
  · intro fits
    refine ⟨rearranges.type ▸ fits.type, fun declared member => ?_⟩
    exact fits.attributes declared (rearranges.attributes.mem_iff.mpr member)
  · intro fits
    refine ⟨rearranges.type ▸ fits.type, fun declared member => ?_⟩
    exact fits.attributes declared (rearranges.attributes.mem_iff.mp member)

/-- A field has the same outline in any order of its attributes. -/
theorem outline_eq (distinct : ((declaration.attributes.map AttributeDeclaration.name).filter
      AttributeKind.isName).Nodup) {field field' : Field}
    (made : Field.ofDeclaration stack declaration = .ok field)
    (made' : Field.ofDeclaration stack other = .ok field') : field.outline = field'.outline := by
  obtain ⟨type, typed, made⟩ := bind_eq_ok_iff.mp made
  obtain ⟨found, declared, ⟨⟩⟩ := bind_eq_ok_iff.mp made
  obtain ⟨type', typed', made'⟩ := bind_eq_ok_iff.mp made'
  obtain ⟨found', declared', ⟨⟩⟩ := bind_eq_ok_iff.mp made'
  rw [rearranges.type, typed'] at typed
  have kinds : (((found.filterMap id).map fun a => (a.kind, a)).map Prod.fst).Nodup := by
    rw [List.map_map]
    exact FieldAttribute.kinds_nodup declared distinct
  have perm := perm_of_mapM rearranges.attributes declared declared'
  have attributes := Table.get?_ofList_of_perm
    ((perm.filterMap id).map fun a => (a.kind, a)) kinds
  exact Field.outline_eq_of_attributes rearranges.name (Except.ok.inj typed).symm
    rearranges.array rearranges.optional fun kind => congrArg _ (attributes kind)

/-- A field has an outline in any order of its attributes or in none. -/
theorem toOption_outline_eq (stack : Stack)
    (distinct : ((declaration.attributes.map AttributeDeclaration.name).filter
      AttributeKind.isName).Nodup) :
    (Field.ofDeclaration stack declaration).toOption.map Field.outline
      = (Field.ofDeclaration stack other).toOption.map Field.outline :=
  map_toOption_eq (Field.gives_ofDeclaration_iff.trans
      (rearranges.fits_iff.trans Field.gives_ofDeclaration_iff.symm))
    fun _ _ => rearranges.outline_eq distinct

end FieldDeclaration.Rearranges

end

/-! ### Models -/

/-- What a conversion reads of a model, whatever the order of its fields is. -/
def Model.unordered (model : Model) : Text × Multiset FieldOutline :=
  (model.name, model.fields.contents.map Field.outline)

theorem Model.unordered_eq_iff {model other : Model} :
    model.unordered = other.unordered ↔ model.name = other.name ∧
      (model.fields.contents.map Field.outline).Perm (other.fields.contents.map Field.outline) := by
  rw [unordered, unordered, Prod.mk.injEq, Multiset.coe_eq_coe]

/-- The fields of a model with distinct names are those that are declared. -/
theorem Model.mapM_eq_contents {stack : Stack} {name : Text} {properties : List Property}
    {model : Model} (made : ofProperties stack name properties = .ok model)
    (distinct : ((properties.filterMap Property.field?).map FieldDeclaration.name).Nodup) :
    (properties.filterMap Property.field?).mapM (Field.ofDeclaration stack)
      = .ok model.fields.contents := by
  obtain ⟨fields, declared, ⟨⟩⟩ := bind_eq_ok_iff.mp made
  have keys : ((fields.map fun field => (field.name, field)).map Prod.fst).Nodup := by
    rw [List.map_map]
    rwa [map_eq_map_of_mapM declared fun _ _ here => (Field.name_of_ofDeclaration here).symm]
      at distinct
  rw [Table.contents, Table.entries_ofList_of_nodup keys, List.map_map]
  exact declared.trans (congrArg Except.ok (List.map_id fields).symm)

section

variable {properties other : List Property}
  (rearranged : Rearranged Property.Rearranges properties other)

include rearranged

/-- What is taken alike from rearranged fields is taken, in some order, from rearranged
properties. -/
theorem Property.perm_map_fields {β : Type} {f : FieldDeclaration → β}
    (same : ∀ declaration ∈ properties.filterMap field?, ∀ other : FieldDeclaration,
      declaration.Rearranges other → f declaration = f other) :
    ((properties.filterMap field?).map f).Perm ((other.filterMap field?).map f) := by
  rw [List.map_filterMap, List.map_filterMap]
  refine rearranged.perm_filterMap fun property member property' related => ?_
  cases related with
  | @field declaration declaration' inner =>
      have declared : declaration ∈ properties.filterMap field? :=
        List.mem_filterMap.mpr ⟨_, member, rfl⟩
      exact congrArg some (same declaration declared declaration' inner)
  | blockAttribute declaration => rfl
  | comment text => rfl

/-- The fields of a model can be shown in any order of its properties. -/
theorem Property.fits_iff {stack : Stack} :
    (∀ declaration ∈ properties.filterMap field?, declaration.Fits stack) ↔
      ∀ declaration ∈ other.filterMap field?, declaration.Fits stack :=
  forall_iff_of_perm_map (perm_map_fields rearranged fun _ _ _ related =>
    propext related.fits_iff)

/-- A model is the same in any order of its properties, up to the order of its fields. -/
theorem Model.unordered_ofProperties (distinct : Property.HaveDistinctNames properties)
    (stack : Stack) (name : Text) :
    (ofProperties stack name properties).toOption.map unordered
      = (ofProperties stack name other).toOption.map unordered := by
  have distinct' : ((other.filterMap Property.field?).map FieldDeclaration.name).Nodup := by
    refine (List.Perm.nodup_iff ?_).mp distinct.fields
    exact Property.perm_map_fields rearranged fun declaration _ other related => related.name
  have gives : Gives (ofProperties stack name properties) ↔ Gives (ofProperties stack name other) :=
    gives_ofProperties_iff.trans ((Property.fits_iff rearranged).trans gives_ofProperties_iff.symm)
  refine map_toOption_eq gives fun model model' made made' => ?_
  have contents := mapM_eq_contents made distinct.fields
  have contents' := mapM_eq_contents made' distinct'
  have outlines := Property.perm_map_fields rearranged fun declaration member other related =>
    related.toOption_outline_eq stack (distinct.attributes declaration member)
  have shown : ∀ (declaration : FieldDeclaration) (field : Field),
      Field.ofDeclaration stack declaration = .ok field →
        (Field.ofDeclaration stack declaration).toOption.map Field.outline = some field.outline :=
    fun _ _ made => congrArg (fun outcome => outcome.toOption.map Field.outline) made
  rw [map_eq_map_of_mapM contents shown, map_eq_map_of_mapM contents' shown] at outlines
  rw [unordered_eq_iff, (isIndexed_ofProperties made).1, (isIndexed_ofProperties made').1]
  refine ⟨rfl, (List.map_perm_map_iff fun _ _ => Option.some.inj).mp ?_⟩
  rw [List.map_map, List.map_map]
  exact outlines

end

/-! ### Schemas -/

namespace Schema

/-- Two indexes that hold the same under each name, up to the order of the fields of a model. -/
structure AlikeIndexes (models models' : Table Text Model) (enums enums' : Table Text (List Text)) :
    Prop where
  models : ∀ name,
    (models.get? name).map Model.unordered = (models'.get? name).map Model.unordered
  enums : ∀ name, enums.get? name = enums'.get? name

theorem AlikeIndexes.symm {models models' : Table Text Model}
    {enums enums' : Table Text (List Text)} (alike : AlikeIndexes models models' enums enums') :
    AlikeIndexes models' models enums' enums where
  models name := (alike.models name).symm
  enums name := (alike.enums name).symm

variable {schema other : Schema} (rearranges : schema.Rearranges other)

include rearranges

/-- What is taken alike from rearranged models is taken, in some order, from a rearranged
schema. -/
theorem perm_map_models {β : Type} {f : Text × List Property → β}
    (same : ∀ name properties,
      (name, properties) ∈ schema.declarations.filterMap Declaration.model? →
        ∀ properties', Rearranged Property.Rearranges properties properties' →
          f (name, properties) = f (name, properties')) :
    ((schema.declarations.filterMap Declaration.model?).map f).Perm
      ((other.declarations.filterMap Declaration.model?).map f) := by
  rw [List.map_filterMap, List.map_filterMap]
  refine Rearranged.perm_filterMap rearranges fun declaration member declaration' related => ?_
  cases related with
  | @model name properties properties' inner =>
      have declared : (name, properties) ∈ schema.declarations.filterMap Declaration.model? :=
        List.mem_filterMap.mpr ⟨_, member, rfl⟩
      exact congrArg some (same name properties declared properties' inner)
  | enum name items => rfl
  | comment text => rfl
  | other kind name => rfl

theorem enumDeclarations_perm : schema.enumDeclarations.Perm other.enumDeclarations := by
  refine List.Perm.map _ (Rearranged.perm_filterMap rearranges
    fun declaration _ other related => ?_)
  cases related <;> rfl

/-- All that is declared can be shown in any order. -/
theorem fits_iff_of_rearranges {stack : Stack} : schema.Fits stack ↔ other.Fits stack :=
  forall_iff_of_perm_map (perm_map_models rearranges fun _ _ _ _ inner =>
    propext (Property.fits_iff inner))

/-- Where names are distinct, a rearranged schema holds the same under each name, up to the order of
the fields of a model. -/
theorem alikeIndexes_of_rearranges {stack : Stack} (distinct : schema.HasDistinctNames)
    {models models' : Table Text Model} (indexed : schema.models stack = .ok models)
    (indexed' : other.models stack = .ok models') :
    AlikeIndexes models models' schema.enums other.enums where
  models name := by
    have held : ∀ {schema : Schema} {models : Table Text Model},
        schema.models stack = .ok models → (models.get? name).map (some ∘ Model.unordered)
          = (Table.ofList ((schema.declarations.filterMap Declaration.model?).map fun declared =>
              (declared.1, (Model.ofProperties stack declared.1 declared.2).toOption.map
                Model.unordered))).get? name := by
      intro schema models indexed
      have made := congrArg (fun table => (table.mapContents fun outcome : Except Excess Model =>
        outcome.toOption.map Model.unordered).get? name) (mapContents_models indexed)
      simp only [Table.get?_mapContents, Option.map_map, Table.mapContents_ofList,
        List.map_map] at made
      exact made
    have same := (held indexed).trans ((Table.get?_ofList_of_perm
      (perm_map_models rearranges fun name properties declared properties' inner => by
        rw [Model.unordered_ofProperties inner (distinct.inner _ declared)])
      (by rw [List.map_map]; exact distinct.models) name).trans (held indexed').symm)
    rw [← Option.map_map, ← Option.map_map] at same
    exact Option.map_injective (fun _ _ => Option.some.inj) same
  enums := Table.get?_ofList_of_perm (enumDeclarations_perm rearranges) distinct.enums

end Schema

end PrismaEsdl.Prisma
