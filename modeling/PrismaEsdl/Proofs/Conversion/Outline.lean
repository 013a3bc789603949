import PrismaEsdl.Proofs.Conversion.Landing

/-!
What a conversion reads.

Of a field, a conversion reads its outline: everything but the name of its relation and the fields
that the relation refers to. Of the model that a field leads to, it reads the counterpart: its name,
and the names of its relations that lead back. Of an enum, it reads that there is one. Fields and
models with the same outline are converted alike, with the same events, where their surroundings
look alike (`placeField_congr`, `objectType_congr`), and so are schemas whose models have the same
outlines (`convert_congr`).
-/

namespace PrismaEsdl.Prisma

/-- What a conversion reads of a field. -/
structure FieldOutline where
  name : Text
  type : FieldType
  array : Bool
  optional : Bool
  /-- The id fields of the relation of the field, if it has one and if that names any. -/
  idFields : Option (Option (List Text))
  default : Option Value
  isUnique : Bool

def Field.outline (field : Field) : FieldOutline where
  name := field.name
  type := field.type
  array := field.array
  optional := field.optional
  idFields := field.relation?.map Relation.fields
  default := field.default?
  isUnique := field.isUnique

/-- An attribute without what a conversion does not read of it. -/
def FieldAttribute.bare : FieldAttribute → FieldAttribute
  | relation named => .relation { fields := named.fields }
  | default value => .default value
  | unique => .unique

/-- The id fields that an attribute names, if it is a relation. -/
def FieldAttribute.idFields? : FieldAttribute → Option (Option (List Text))
  | relation named => some named.fields
  | default _ | unique => none

/-- The value that an attribute gives, if it is a default. -/
def FieldAttribute.value? : FieldAttribute → Option Value
  | default value => some value
  | relation _ | unique => none

/-- What a conversion reads of a model. -/
structure ModelOutline where
  name : Text
  fields : Table Text FieldOutline

def Model.outline (model : Model) : ModelOutline where
  name := model.name
  fields := model.fields.mapContents Field.outline

/-- The names of the relations that lead to a model. -/
def ModelOutline.relationsTo (outline : ModelOutline) (target : Text) : List Text :=
  (outline.fields.contents.filter fun field =>
    field.idFields.isSome && field.type.name? == some target).map FieldOutline.name

namespace Field

variable {field other : Field}

theorem outline_eq_iff :
    field.outline = other.outline ↔ field.name = other.name ∧ field.type = other.type ∧
      field.array = other.array ∧ field.optional = other.optional ∧
      field.relation?.map Relation.fields = other.relation?.map Relation.fields ∧
      field.default? = other.default? ∧ field.isUnique = other.isUnique := by
  simp [outline]

theorem typeName?_of_outline_eq (same : field.outline = other.outline) :
    field.typeName? = other.typeName? :=
  congrArg (fun outline => outline.type.name?) same

theorem isSome_relation?_of_outline_eq (same : field.outline = other.outline) :
    field.relation?.isSome = other.relation?.isSome := by
  simpa [outline] using congrArg (fun outline => outline.idFields.isSome) same

theorem bind_fields_of_outline_eq (same : field.outline = other.outline) :
    field.relation?.bind Relation.fields = other.relation?.bind Relation.fields := by
  simpa [outline, Option.bind_map] using congrArg (fun outline => outline.idFields.bind id) same

/-- Fields that are declared alike have the same outline, where their attributes say the same of
what is read. -/
theorem outline_eq_of_attributes (sameName : field.name = other.name)
    (sameType : field.type = other.type) (sameArray : field.array = other.array)
    (sameOptional : field.optional = other.optional)
    (sameAttributes : ∀ kind, (field.attributes.get? kind).map FieldAttribute.bare
      = (other.attributes.get? kind).map FieldAttribute.bare) :
    field.outline = other.outline := by
  have idFields : ∀ field : Field, field.relation?.map Relation.fields
      = ((field.attributes.get? .relation).map FieldAttribute.bare).bind
          FieldAttribute.idFields? := by
    intro field
    unfold relation?
    rcases field.attributes.get? .relation with _ | (_ | _ | _) <;> rfl
  have default : ∀ field : Field, field.default?
      = ((field.attributes.get? .default).map FieldAttribute.bare).bind
          FieldAttribute.value? := by
    intro field
    unfold default?
    rcases field.attributes.get? .default with _ | (_ | _ | _) <;> rfl
  have unique : ∀ field : Field, field.isUnique
      = ((field.attributes.get? .unique).map FieldAttribute.bare).isSome := by
    intro field
    rw [Option.isSome_map, Table.isSome_get?, isUnique]
  rw [outline_eq_iff, idFields, idFields, default, default, unique, unique, sameAttributes,
    sameAttributes, sameAttributes]
  exact ⟨sameName, sameType, sameArray, sameOptional, rfl, rfl, rfl⟩

end Field

namespace Model

variable {model other : Model}

theorem name_of_outline_eq (same : model.outline = other.outline) : model.name = other.name :=
  congrArg ModelOutline.name same

theorem keys_of_outline_eq (same : model.outline = other.outline) :
    model.fields.keys = other.fields.keys := by
  simpa [outline] using congrArg (fun outline => outline.fields.keys) same

theorem outlines_of_outline_eq (same : model.outline = other.outline) :
    model.fields.contents.map Field.outline = other.fields.contents.map Field.outline := by
  simpa [outline] using congrArg (fun outline => outline.fields.contents) same

/-- The names of the relations that lead back are seen in the outline. -/
theorem relationsTo_outline (model : Model) (target : Text) :
    model.outline.relationsTo target = (model.relationsTo target).map Field.name := by
  have related : ∀ field : Field, (field.outline.idFields.isSome
      && field.outline.type.name? == some target)
      = (field.relation?.isSome && field.typeName? == some target) := by
    intro field
    simp [Field.outline, Field.typeName?]
  simp only [ModelOutline.relationsTo, outline, Table.contents_mapContents, List.filter_map,
    Function.comp_def, related, List.map_map, relationsTo]
  rfl

end Model

end PrismaEsdl.Prisma

namespace PrismaEsdl.Conversion

open Prisma Esdl Log
open Outcome (Alike)

/-- What is seen of the model that a type name leads to: its name, and the names of its relations
that lead back. -/
structure Counterpart where
  target : Text
  inverses : List Text

/-- What a model sees of the model that a type name leads to. -/
def counterpart? (models : Table Text Model) (owner type : Text) : Option Counterpart :=
  (models.get? type).map fun target => ⟨target.name, (target.relationsTo owner).map Field.name⟩

/-- Two surroundings look alike to a model where it names a type: the name leads to the same
counterpart or to none, and to an enum in both or in neither. -/
structure LookAlike (models models' : Table Text Model) (enums enums' : Table Text (List Text))
    (owner type : Text) : Prop where
  counterpart : counterpart? models owner type = counterpart? models' owner type
  enumerated : enums.contains type = enums'.contains type

section

variable {models models' : Table Text Model} {enums enums' : Table Text (List Text)}
  {stack : Stack} {model model' target target' : Model} {field field' : Field} {name : Text}

theorem isSome_counterpart? (owner type : Text) :
    (counterpart? models owner type).isSome = models.contains type := by
  rw [counterpart?, Option.isSome_map, Table.isSome_get?]

/-- The counterpart is seen in the outlines of the models. -/
theorem counterpart?_eq (owner type : Text) :
    counterpart? models owner type = ((models.mapContents Model.outline).get? type).map
      fun outline => ⟨outline.name, outline.relationsTo owner⟩ := by
  simp only [counterpart?, Table.get?_mapContents, Option.map_map, Function.comp_def,
    Model.relationsTo_outline]
  rfl

/-! ### Fields -/

theorem isLink_congr (same : field.outline = field'.outline)
    (alike : ∀ type, field.typeName? = some type →
      LookAlike models models' enums enums' name type) :
    isLink models field = isLink models' field' := by
  unfold isLink
  rw [← Field.typeName?_of_outline_eq same]
  cases typed : field.typeName? with
  | none => rfl
  | some type => simp only [← isSome_counterpart? name type, (alike type typed).counterpart]

theorem misplacedType_congr (same : field.outline = field'.outline) :
    misplacedType stack field = misplacedType stack field' := by
  obtain ⟨_, sameType, _⟩ := Field.outline_eq_iff.mp same
  unfold misplacedType
  rw [sameType]

theorem missingTarget_congr {α : Type} (same : field.outline = field'.outline) :
    (missingTarget stack name field : Except Obstacle α) = missingTarget stack name field' := by
  obtain ⟨sameName, _⟩ := Field.outline_eq_iff.mp same
  unfold missingTarget
  rw [sameName, misplacedType_congr same]

theorem checkTarget_congr (same : field.outline = field'.outline)
    (alike : ∀ type, field.typeName? = some type →
      LookAlike models models' enums enums' name type) :
    checkTarget stack models name field = checkTarget stack models' name field' := by
  unfold checkTarget
  rw [isLink_congr same alike, Field.isSome_relation?_of_outline_eq same, missingTarget_congr same]

theorem linkId_congr (same : field.outline = field'.outline) :
    linkId name field = linkId name field' := by
  obtain ⟨sameName, _⟩ := Field.outline_eq_iff.mp same
  unfold linkId
  rw [Field.bind_fields_of_outline_eq same, sameName]

theorem propertyType_congr {scalars : Table Text Text} (same : field.outline = field'.outline)
    (alike : ∀ type, field.typeName? = some type →
      LookAlike models models' enums enums' name type) :
    propertyType stack enums scalars name field
      = propertyType stack enums' scalars name field' := by
  obtain ⟨sameName, sameType, _⟩ := Field.outline_eq_iff.mp same
  unfold propertyType
  rw [← sameName, ← sameType, misplacedType_congr same]
  cases typed : field.type with
  | call function arguments => rfl
  | named type =>
      have named : field.typeName? = some type := by rw [Field.typeName?, typed]; rfl
      simp only [(alike type named).enumerated]

theorem defaultExpression?_congr {type : FieldType} {value : Value}
    (enumerated : ∀ name, type.name? = some name → enums.contains name = enums'.contains name) :
    defaultExpression? enums type value = defaultExpression? enums' type value := by
  unfold defaultExpression?
  cases value with
  | text token =>
      cases type with
      | call function arguments => rfl
      | named name => simp only [enumerated name rfl]
  | _ => rfl

theorem droppedDefault_congr {value : Value} (same : field.outline = field'.outline) :
    droppedDefault stack name field value = droppedDefault stack name field' value := by
  obtain ⟨sameName, sameType, _⟩ := Field.outline_eq_iff.mp same
  unfold droppedDefault
  rw [sameName, sameType]

theorem pointerDefault_congr (same : field.outline = field'.outline)
    (alike : ∀ type, field.typeName? = some type →
      LookAlike models models' enums enums' name type) :
    pointerDefault stack enums name field = pointerDefault stack enums' name field' := by
  obtain ⟨_, sameType, _, _, _, sameDefault, _⟩ := Field.outline_eq_iff.mp same
  have sameExpression : ∀ value, defaultExpression? enums field.type value
      = defaultExpression? enums' field.type value :=
    fun value => defaultExpression?_congr fun type typed => (alike type typed).enumerated
  unfold pointerDefault
  simp only [← sameType, ← sameDefault, sameExpression, droppedDefault_congr same]

theorem pointerOf_congr {kind : PointerKind} {type : Text} {default : Option Text}
    (same : field.outline = field'.outline) :
    pointerOf kind type field default = pointerOf kind type field' default := by
  obtain ⟨_, _, sameArray, sameOptional, _, _, sameUnique⟩ := Field.outline_eq_iff.mp same
  unfold pointerOf
  rw [sameArray, sameOptional, sameUnique]

/-! ### Links -/

/-- A link leads nowhere in either of two surroundings that look alike, or to models with the same
counterpart. -/
theorem targetOf_congr (same : field.outline = field'.outline)
    (alike : ∀ type, field.typeName? = some type →
      LookAlike models models' enums enums' name type) :
    Alike (fun target target' => target.name = target'.name ∧
        (target.relationsTo name).map Field.name = (target'.relationsTo name).map Field.name)
      (targetOf stack models name field) (targetOf stack models' name field') := by
  have nowhere : Alike (fun target target' : Model => target.name = target'.name ∧
        (target.relationsTo name).map Field.name = (target'.relationsTo name).map Field.name)
      (missingTarget stack name field) (missingTarget stack name field) := by
    obtain ⟨obstacle, missing⟩ := missingTarget_eq_error stack name field
    rw [missing]
    exact .error obstacle
  unfold targetOf
  rw [← missingTarget_congr same, ← Field.typeName?_of_outline_eq same]
  cases typed : field.typeName? with
  | none => exact nowhere
  | some type =>
      cases type with
      | nil => exact nowhere
      | cons first rest =>
          have seen := (alike _ typed).counterpart
          unfold counterpart? at seen
          cases found : models.get? (first :: rest) with
          | none =>
              rw [found, Option.map_none, eq_comm, Option.map_eq_none_iff] at seen
              simp only [found, seen]
              exact nowhere
          | some target =>
              rw [found, Option.map_some, eq_comm, Option.map_eq_some_iff] at seen
              obtain ⟨target', found', seen⟩ := seen
              obtain ⟨sameTarget, sameInverses⟩ := Counterpart.mk.inj seen
              simp only [found, found']
              exact .ok ⟨sameTarget.symm, sameInverses.symm⟩

/-- Places a link beside its counterpart. -/
def placeBeside (stack : Stack) (enums : Table Text (List Text)) (model : Model) (field : Field)
    (seen : Counterpart) : Run Obstacle Placement :=
  match seen.inverses with
  | [] => do
    let id ← .ofExcept (linkId model.name field)
    warnUndeclared model field id
    let default ← pointerDefault stack enums model.name field
    .tell (.linkMade model.name field.name seen.target)
    return .link (pointerOf .link seen.target field default) id
  | [inverse] => do
    .tell (.backlinkMade model.name field.name seen.target inverse)
    return .backlink ⟨Backlink.through inverse seen.target, field.array⟩
  | candidates =>
    .stop (.misplaced (.ambiguousBacklink model.name field.name seen.target candidates))

/-- Where a link is placed is decided by its counterpart. -/
theorem placeLink_eq (leads : targetOf stack models model.name field = .ok target) :
    placeLink stack models enums model field = placeBeside stack enums model field
      ⟨target.name, (target.relationsTo model.name).map Field.name⟩ := by
  rw [placeLink_of_targetOf leads]
  rcases candidates : target.relationsTo model.name with _ | ⟨inverse, _ | ⟨next, others⟩⟩ <;> rfl

/-- Two models have the same names: their own, and those of their fields. -/
structure SameNames (model model' : Model) : Prop where
  owner : model.name = model'.name
  fields : ∀ name, model.fields.contains name = model'.fields.contains name

theorem sameNames_of_outline_eq (same : model.outline = model'.outline) :
    SameNames model model' where
  owner := Model.name_of_outline_eq same
  fields := by
    unfold Table.contains
    rw [Model.keys_of_outline_eq same]
    exact fun _ => rfl

theorem warnUndeclared_congr {id : Option Text} (names : SameNames model model')
    (same : field.outline = field'.outline) :
    warnUndeclared model field id = warnUndeclared model' field' id := by
  obtain ⟨sameName, _⟩ := Field.outline_eq_iff.mp same
  unfold warnUndeclared
  simp only [names.owner, names.fields, sameName]

section

variable (names : SameNames model model') (same : field.outline = field'.outline)
  (alike : ∀ type, field.typeName? = some type →
    LookAlike models models' enums enums' model.name type)

include names same alike

theorem placeBeside_congr (seen : Counterpart) :
    placeBeside stack enums model field seen = placeBeside stack enums' model' field' seen := by
  obtain ⟨sameName, _, sameArray, _⟩ := Field.outline_eq_iff.mp same
  unfold placeBeside
  simp only [warnUndeclared_congr names same, pointerDefault_congr same alike,
    linkId_congr same, pointerOf_congr same, sameName, sameArray,
    ← names.owner]

theorem placeProperty_congr :
    placeProperty stack enums model field = placeProperty stack enums' model' field' := by
  unfold placeProperty
  simp only [propertyType_congr same alike, pointerDefault_congr same alike, pointerOf_congr same,
    ← names.owner]

theorem placeLink_congr :
    placeLink stack models enums model field = placeLink stack models' enums' model' field' := by
  have ends : Alike _ (targetOf stack models model.name field)
      (targetOf stack models' model.name field') := targetOf_congr same alike
  generalize leads : targetOf stack models model.name field = first at ends
  generalize leads' : targetOf stack models' model.name field' = second at ends
  rw [names.owner] at leads'
  cases ends with
  | error obstacle => rw [placeLink_of_error leads, placeLink_of_error leads']
  | ok counterparts =>
      rw [placeLink_eq leads, placeLink_eq leads', ← names.owner, ← counterparts.1,
        ← counterparts.2]
      exact placeBeside_congr names same alike _

/-- A field is placed by its outline and by what is seen around it. -/
theorem placeField_congr :
    placeField stack models enums model field = placeField stack models' enums' model' field' := by
  unfold placeField
  rw [checkTarget_congr same alike, isLink_congr same alike,
    placeLink_congr names same alike, placeProperty_congr names same alike,
    names.owner]

end

/-! ### Models -/

/-- Fields are placed one after the other by their outlines. -/
theorem placeFields_congr (names : SameNames model model') :
    ∀ {fields fields' : List Field} (type : ObjectType),
      fields.map Field.outline = fields'.map Field.outline →
      (∀ field ∈ fields, ∀ type, field.typeName? = some type →
        LookAlike models models' enums enums' model.name type) →
      placeFields stack models enums model fields type
        = placeFields stack models' enums' model' fields' type
  | [], [], _, _, _ => rfl
  | [], _ :: _, _, same, _ => by cases same
  | _ :: _, [], _, same, _ => by cases same
  | field :: rest, field' :: rest', type, same, alike => by
      obtain ⟨sameField, sameRest⟩ := List.cons.inj same
      obtain ⟨sameName, _⟩ := Field.outline_eq_iff.mp sameField
      unfold placeFields
      rw [placeField_congr names sameField (alike field List.mem_cons_self), sameName]
      congr 1
      funext placement
      exact placeFields_congr names _ sameRest
        fun field member => alike field (List.mem_cons_of_mem _ member)

/-- The object type of a model is made from its outline and what is seen around it. -/
theorem objectType_congr (same : model.outline = model'.outline)
    (alike : ∀ field ∈ model.fields.contents, ∀ type, field.typeName? = some type →
      LookAlike models models' enums enums' model.name type) :
    objectType stack models enums model = objectType stack models' enums' model' :=
  placeFields_congr (sameNames_of_outline_eq same) {} (Model.outlines_of_outline_eq same) alike

/-- Object types are made one after the other from the outlines of their models. -/
theorem objectTypes_congr :
    ∀ {declared declared' : List Model} (types : Table Text ObjectType),
      declared.map Model.outline = declared'.map Model.outline →
      (∀ model ∈ declared, ∀ field ∈ model.fields.contents, ∀ type, field.typeName? = some type →
        LookAlike models models' enums enums' model.name type) →
      objectTypes stack models enums declared types
        = objectTypes stack models' enums' declared' types
  | [], [], _, _, _ => rfl
  | [], _ :: _, _, same, _ => by cases same
  | _ :: _, [], _, same, _ => by cases same
  | model :: rest, model' :: rest', types, same, alike => by
      obtain ⟨sameModel, sameRest⟩ := List.cons.inj same
      unfold objectTypes
      rw [objectType_congr sameModel (alike model List.mem_cons_self),
        Model.name_of_outline_eq sameModel]
      congr 1
      funext type
      exact objectTypes_congr _ sameRest
        fun model member => alike model (List.mem_cons_of_mem _ member)

end

/-- A schema is converted by the outlines of its models and by its enums. -/
theorem convert_congr {stack : Stack} {schema other : Prisma.Schema}
    (sameModels : Alike (fun models models' =>
        models.mapContents Model.outline = models'.mapContents Model.outline)
      (schema.models stack) (other.models stack))
    (sameEnums : schema.enumDeclarations = other.enumDeclarations) :
    convert stack schema = convert stack other := by
  have enums : schema.enums = other.enums := by
    simp only [Prisma.Schema.enums, sameEnums]
  unfold convert indexModels indexEnums
  simp only [sameEnums, enums]
  generalize schema.models stack = first at sameModels ⊢
  generalize other.models stack = second at sameModels ⊢
  cases sameModels with
  | error excess => rfl
  | @ok models models' sameModels =>
      have keys : models.keys = models'.keys := by
        simpa using congrArg Table.keys sameModels
      have outlines : models.contents.map Model.outline = models'.contents.map Model.outline := by
        simpa using congrArg Table.contents sameModels
      have alike : ∀ model ∈ models.contents, ∀ field ∈ model.fields.contents, ∀ type,
          field.typeName? = some type →
            LookAlike models models' other.enums other.enums model.name type := by
        intro model _ field _ type _
        exact ⟨by rw [counterpart?_eq, counterpart?_eq, sameModels], rfl⟩
      have types : objectTypes stack models other.enums models.contents ∅
          = objectTypes stack models' other.enums models'.contents ∅ :=
        objectTypes_congr ∅ outlines alike
      simp only [Except.mapError, Run.ofExcept_ok, bind_assoc, pure_bind, keys, types]

end PrismaEsdl.Conversion
